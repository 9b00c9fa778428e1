import MulticaOS.Lib.Lists
import MulticaOS.Channels.Accounts
import MulticaOS.Channels.Handling

/-!
What the workers leave behind, over every interleaving, fault and crash: one message row at
most, one issue at most, and a dedup row that tells whether there is one.
-/

namespace MulticaOS.Channels

open ProgramLib

structure Follows (delivery : Delivery) (worker : Worker) (phase : Phase) : Prop where
  obeys : worker.program.Obeys (Moves delivery) (Ends delivery) phase
  own : phase ≠ .elsewhere
  consistent : worker.crashed = false → Consistent phase worker.transaction
  idle : worker.crashed = true → worker.transaction = none

def locksOf (tracked : List (Worker × Phase)) : Nat := (tracked.map fun pair => held pair.1.transaction).sum

def pendingOf (tracked : List (Worker × Phase)) : Nat := (tracked.map fun pair => pair.2.pending).sum

structure Tracks (delivery : Delivery) (declined : Prop) (world : World) (tracked : List (Worker × Phase)) :
    Prop where
  workers : world.workers = tracked.map Prod.fst
  follows : ∀ pair ∈ tracked, Follows delivery pair.1 pair.2
  sound : ∀ orphan ∈ world.orphans, orphan.Sound
  accounts : Accounts world.database (locksOf tracked + heldBy world.orphans) (pendingOf tracked) declined

section Worlds

variable {delivery : Delivery} {declined : Prop} {world : World} {tracked front back : List (Worker × Phase)}

@[simp] theorem locksOf_append : locksOf (front ++ back) = locksOf front + locksOf back := by
  simp [locksOf]

@[simp] theorem locksOf_cons (pair : Worker × Phase) :
    locksOf (pair :: back) = held pair.1.transaction + locksOf back := by
  simp [locksOf]

@[simp] theorem pendingOf_append : pendingOf (front ++ back) = pendingOf front + pendingOf back := by
  simp [pendingOf]

@[simp] theorem pendingOf_cons (pair : Worker × Phase) :
    pendingOf (pair :: back) = pair.2.pending + pendingOf back := by
  simp [pendingOf]

@[simp] theorem heldBy_append (left right : List Transaction) :
    heldBy (left ++ right) = heldBy left + heldBy right := List.countP_append

theorem locksOf_eq_zero (free : ((tracked.map Prod.fst).any Worker.locks) = false) : locksOf tracked = 0 := by
  induction tracked with
  | nil => rfl
  | cons pair rest ih =>
      simp only [List.map_cons, List.any_cons, Bool.or_eq_false_iff] at free
      rw [locksOf_cons, ih free.2]
      simpa [held, Worker.locks] using free.1

theorem heldBy_eq_zero {orphans : List Transaction} (free : orphans.any Transaction.marks = false) :
    heldBy orphans = 0 := by
  unfold heldBy
  rw [List.countP_eq_zero]
  simpa using free

theorem Tracks.at_index {index : Nat} {worker : Worker} (tracks : Tracks delivery declined world tracked)
    (found : world.workers[index]? = some worker) :
    ∃ front phase back, tracked = front ++ (worker, phase) :: back ∧ front.length = index ∧
      world.workers.eraseIdx index = (front ++ back).map Prod.fst ∧
      ∀ other later, world.workers.set index other = (front ++ (other, later) :: back).map Prod.fst := by
  rw [tracks.workers, List.getElem?_map, Option.map_eq_some_iff] at found
  obtain ⟨⟨same, phase⟩, found, rfl⟩ := found
  obtain ⟨front, back, split, here⟩ := ListLib.split_at_index found
  have position : index = (front.map Prod.fst).length := by rw [List.length_map, here]
  refine ⟨front, phase, back, split, here, ?_, ?_⟩
  · rw [tracks.workers, split, List.map_append, List.map_cons, position, ListLib.eraseIdx_split,
      List.map_append]
  · intro other later
    rw [tracks.workers, split, List.map_append, List.map_cons, position, ListLib.set_split,
      List.map_append, List.map_cons]

def Phase.late : Phase → Bool
  | .opening => true
  | .turned => true
  | _ => false

inductive Advances (stored : Prop) (tracked : List (Worker × Phase)) : List (Worker × Phase) → Prop
  | same : Advances stored tracked tracked
  | starts (worker : Worker) : Advances stored tracked (tracked ++ [(worker, .opening)])
  | moves (index : Nat) (worker other : Worker) (phase later : Phase)
      (found : tracked[index]? = some (worker, phase))
      (late : stored → phase.late = true → later.late = true) :
      Advances stored tracked (tracked.set index (other, later))

theorem Tracks.advance {worker other : Worker} {phase later : Phase} {database : Database}
    {orphans : List Transaction} {clock : Nat} {index : Nat}
    (tracks : Tracks delivery declined world tracked) (split : tracked = front ++ (worker, phase) :: back)
    (here : front.length = index) (follows : Follows delivery other later) (sound : ∀ orphan ∈ orphans, orphan.Sound)
    (accounts : Accounts database (held other.transaction + heldBy orphans + (locksOf front + locksOf back))
      (later.pending + (pendingOf front + pendingOf back)) declined)
    (late : 0 < world.database.messages → phase.late = true → later.late = true) :
    ∃ next, Tracks delivery declined ⟨clock, database, world.workers.set index other, orphans⟩ next ∧
      Advances (0 < world.database.messages) tracked next := by
  have position : tracked[index]? = some (worker, phase) := by rw [split, ← here]; simp
  have moved : tracked.set index (other, later) = front ++ (other, later) :: back := by
    rw [split, ← here, ListLib.set_split]
  refine ⟨tracked.set index (other, later), ⟨?_, ?_, sound, ?_⟩, .moves index worker other phase later
    position late⟩
  · rw [tracks.workers, List.map_set]
  · intro pair member
    rcases List.mem_or_eq_of_mem_set member with kept | rfl
    · exact tracks.follows pair kept
    · exact follows
  · rw [moved, locksOf_append, locksOf_cons, pendingOf_append, pendingOf_cons]
    exact accounts.fewer (by dsimp only; omega) (by dsimp only; omega)

theorem late_of_stored {environment : (request : Call) → Answer request} {fault : Fault} {started : Nat}
    {transaction : Option Transaction} {database : Database} {request : Call} {phase later : Phase}
    (processed : ∃ row, database.row = some row ∧ row.processed = true)
    (moves : Moves delivery phase request
      (serve delivery environment fault started database transaction request).answer later)
    (resolved : resolves delivery environment = true) (late : phase.late = true) : later.late = true := by
  generalize answered :
    (serve delivery environment fault started database transaction request).answer = answer at moves
  cases moves with
  | resolveInstallation | dropUnclaimed | dropTurned | claimRefused | claimFailed => rfl
  | resolveOther installation other =>
      have found : environment .resolveInstallation = .found installation := answered
      simp [resolves, found, other] at resolved
  | claim token =>
      obtain ⟨row, found, processed⟩ := processed
      cases report : fault.report with
      | none => simp [serve, report, Database.claim, found, DedupRow.stale, processed] at answered
      | some text => simp [serve, report] at answered
  | _ => exact absurd late (by simp [Phase.late])

def World.marks (world : World) : Action → Bool
  | .serve index _ _ _ =>
      match world.workers[index]? with
      | none => false
      | some worker =>
          match worker.program with
          | .call (.mark _ _ _) _ => true
          | _ => false
  | _ => false

def Advanced (delivery : Delivery) (declined : Prop) (world : World) (tracked : List (Worker × Phase))
    (reached : World) : Prop :=
  ∃ next, Tracks delivery declined reached next ∧ Advances (0 < world.database.messages) tracked next

theorem receive_tracks (tracks : Tracks delivery declined world tracked) (message : InboundMessage) :
    Advanced delivery declined world tracked (world.receive delivery message) := by
  unfold World.receive
  by_cases same : message.messageID = delivery.messageID
  · rw [if_pos same]
    refine ⟨tracked ++ [(⟨dispatch message, none, false⟩, .opening)], ?_, .starts _⟩
    refine ⟨by simp [tracks.workers], ?_, tracks.sound, ?_⟩
    · intro pair member
      rcases List.mem_append.mp member with kept | fresh
      · exact tracks.follows pair kept
      · obtain rfl := List.mem_singleton.mp fresh
        exact ⟨dispatch_obeys same, by simp, fun _ => rfl, fun _ => rfl⟩
    · rw [locksOf_append, pendingOf_append]
      exact tracks.accounts
  · rw [if_neg same]
    exact ⟨tracked, tracks, .same⟩

theorem serve_tracks (tracks : Tracks delivery declined world tracked) {index : Nat}
    {environment : (request : Call) → Answer request} {fault : Fault} {started : Nat}
    (final : world.marks (.serve index environment fault started) = true → declined) :
    Advanced delivery declined world tracked
      (world.serve delivery index environment fault started) := by
  have unchanged : Advanced delivery declined world tracked world := ⟨tracked, tracks, .same⟩
  unfold World.serve
  cases found : world.workers[index]? with
  | none => exact unchanged
  | some worker =>
      obtain ⟨front, phase, back, split, here, others, -⟩ := tracks.at_index found
      obtain ⟨program, transaction, crashed⟩ := worker
      cases program with
      | done result => exact unchanged
      | call request next =>
          dsimp only
          split
          · exact unchanged
          · rename_i served
            simp only [Bool.or_eq_true, Bool.and_eq_true, Bool.not_eq_true', not_or, not_and,
              Bool.not_eq_true, Bool.not_eq_false] at served
            obtain ⟨⟨alive, resolved⟩, unlocked⟩ := served
            have follows := tracks.follows (⟨.call request next, transaction, crashed⟩, phase) (by simp [split])
            obtain ⟨later, moves, rest⟩ := follows.obeys (serve delivery environment fault
              (min started world.clock) world.database transaction request).answer
            have books := tracks.accounts
            simp only [split, locksOf_append, locksOf_cons, pendingOf_append, pendingOf_cons] at books
            have free : fault.happens = true → waits request = true →
                locksOf front + locksOf back + heldBy world.orphans = 0 := by
              intro happens waiting
              have available := unlocked ⟨happens, waiting⟩
              simp only [World.lockedFor, Bool.or_eq_false_iff] at available
              rw [others] at available
              have idle := locksOf_eq_zero available.1
              rw [locksOf_append] at idle
              rw [idle, heldBy_eq_zero available.2]
            have marked : ∀ installationID messageID token,
                request = .mark installationID messageID token → declined := by
              rintro installationID messageID token rfl
              exact final (by simp [World.marks, found])
            obtain ⟨own, kept⟩ := serve_kept moves follows.own (follows.consistent alive) resolved free marked
              (books.fewer (by omega) (le_of_eq (Nat.add_left_comm _ _ _)))
            refine tracks.advance split here ⟨rest, own, fun _ => kept.consistent, by simp⟩ ?_ ?_ ?_
            · intro orphan member
              rcases List.mem_append.mp member with fresh | old
              · exact kept.sound orphan fresh
              · exact tracks.sound orphan old
            · rw [heldBy_append]
              exact kept.accounts.fewer (by dsimp only; omega) le_rfl
            · intro stored late
              exact late_of_stored (books.stored stored) moves resolved late

theorem carries_of_commits {worker : Worker} {phase : Phase} (follows : Follows delivery worker phase)
    (alive : worker.crashed = false) (commits : worker.commits = true) :
    worker.transaction = some ⟨1, true, false⟩ := by
  have consistent := follows.consistent alive
  have obeys := follows.obeys
  have own := follows.own
  obtain ⟨program, transaction, crashed⟩ := worker
  cases program with
  | done result => cases commits
  | call request next =>
      cases request with
      | commit =>
          obtain ⟨later, moves, -⟩ := obeys CommitAnswer.committed
          cases moves with
          | elsewhere => exact absurd rfl own
          | commit token => exact consistent
      | _ => cases commits

theorem crash_tracks (tracks : Tracks delivery declined world tracked) (index : Nat) (sent : Bool) :
    Advanced delivery declined world tracked (world.crash index sent) := by
  unfold World.crash
  cases found : world.workers[index]? with
  | none => exact ⟨tracked, tracks, .same⟩
  | some worker =>
      obtain ⟨front, phase, back, split, here, -, -⟩ := tracks.at_index found
      have follows := tracks.follows (worker, phase) (by simp [split])
      have books := tracks.accounts
      simp only [split, locksOf_append, locksOf_cons, pendingOf_append, pendingOf_cons] at books
      refine @Tracks.advance _ _ _ _ _ _ _ _ _ phase _ _ _ _ tracks split here ⟨follows.obeys, follows.own, by simp, by simp⟩
        ?_ ?_ (fun _ late => late)
      · intro orphan member
        rcases List.mem_append.mp member with fresh | old
        · obtain ⟨opened, mine, rfl⟩ := List.mem_map.mp fresh
          intro committing
          simp only [Bool.and_eq_true] at committing
          have alive : worker.crashed = false := by
            by_contra crashed
            rw [follows.idle (by simpa using crashed)] at mine
            simp at mine
          have carries := carries_of_commits follows alive committing.2
          rw [carries] at mine
          obtain rfl : opened = ⟨1, true, false⟩ := by simpa using mine
          exact ⟨rfl, rfl⟩
        · exact tracks.sound orphan old
      · rw [heldBy_append]
        have moved : heldBy (worker.transaction.toList.map fun opened =>
            { opened with committing := sent && worker.commits }) = held worker.transaction := by
          cases worker.transaction with
          | none => rfl
          | some opened => by_cases marks : opened.marks = true <;> simp [heldBy, held, marks]
        have none : held none = 0 := rfl
        refine books.fewer ?_ (by omega)
        dsimp only
        omega

theorem settle_tracks (tracks : Tracks delivery declined world tracked) (index : Nat) (commits : Bool) :
    Advanced delivery declined world tracked (world.settle index commits) := by
  unfold World.settle
  cases found : world.orphans[index]? with
  | none => exact ⟨tracked, tracks, .same⟩
  | some orphan =>
      obtain ⟨front, back, split, here⟩ := ListLib.split_at_index found
      refine ⟨tracked, ⟨tracks.workers, tracks.follows, ?_, ?_⟩, .same⟩
      · exact fun other member => tracks.sound other (List.mem_of_mem_eraseIdx member)
      · have books := tracks.accounts
        have counted : heldBy (orphan :: back) = heldBy [orphan] + heldBy back :=
          heldBy_append [orphan] back
        rw [split, heldBy_append, counted] at books
        rw [split, ← here, ListLib.eraseIdx_split, heldBy_append]
        dsimp only
        by_cases committed : (commits && orphan.committing) = true
        · rw [if_pos committed]
          obtain ⟨marks, single⟩ := tracks.sound orphan (by simp [split]) (by simp_all)
          have one : heldBy [orphan] = 1 := by simp [heldBy, marks]
          have landed := @land_accounts _ _ (locksOf tracked + (heldBy front + heldBy back)) _ _ marks
            single (books.fewer (by omega) le_rfl)
          exact landed.fewer le_rfl (Nat.le_succ _)
        · rw [if_neg committed]
          exact books.fewer (by omega) le_rfl

theorem step_tracks (tracks : Tracks delivery declined world tracked) (action : Action)
    (final : world.marks action = true → declined) :
    Advanced delivery declined world tracked (step delivery world action) := by
  cases action with
  | receive message => exact receive_tracks tracks message
  | serve index environment fault started => exact serve_tracks tracks final
  | crash index sent => exact crash_tracks tracks index sent
  | settle index commits => exact settle_tracks tracks index commits
  | wait time => exact ⟨tracked, ⟨tracks.workers, tracks.follows, tracks.sound, tracks.accounts⟩, .same⟩

theorem initial_tracks : Tracks delivery declined initial [] :=
  ⟨rfl, by simp, by simp [initial], ⟨by decide, by decide, by decide, by decide, by simp [initial]⟩⟩

theorem run_tracks {actions : List Action}
    (final : RunLib.Every (step delivery) (fun world action => world.marks action = true → declined)
      initial actions) :
    ∃ tracked, Tracks delivery declined (runFrom delivery initial actions) tracked := by
  have always := @RunLib.always_of_invariant _ _ (step delivery)
    (fun world => ∃ tracked, Tracks delivery declined world tracked) _ initial actions
    ⟨[], initial_tracks⟩ ?_ final
  · exact always.last
  · rintro world action ⟨tracked, tracks⟩ allowed
    obtain ⟨next, kept, -⟩ := step_tracks tracks action allowed
    exact ⟨next, kept⟩

theorem serve_messages (environment : (request : Call) → Answer request) (fault : Fault) (started : Nat)
    (database : Database) (transaction : Option Transaction) (request : Call) :
    database.messages ≤
      (serve delivery environment fault started database transaction request).database.messages := by
  have claimed : (database.claim started).1.messages = database.messages := by
    unfold Database.claim
    cases database.row with
    | none => rfl
    | some row => by_cases stale : row.stale started = true <;> simp [stale]
  have marked : ∀ token, (database.mark token).messages = database.messages := by
    intro token
    by_cases owned : database.owned token = true <;> simp [Database.mark, owned]
  have released : ∀ token, (database.release token).messages = database.messages := by
    intro token
    by_cases owned : database.owned token = true <;> simp [Database.release, owned]
  have either : ∀ other : Database, database.messages ≤ other.messages →
      database.messages ≤ (if fault.happens then other else database).messages := by
    intro other more
    by_cases happens : fault.happens = true <;> simp [happens, more]
  cases request with
  | claim installationID messageID =>
      simp only [serve]
      split
      · exact either _ claimed.ge
      · exact le_rfl
  | begin =>
      simp only [serve]
      split <;> exact le_rfl
  | createChatMessage sessionID content media =>
      simp only [serve]
      split
      · exact le_rfl
      · split
        · exact le_rfl
        · exact Nat.le_succ _
  | markProcessed installationID messageID token =>
      simp only [serve]
      split
      · split
        · exact le_rfl
        · exact either _ (marked token).ge
      · exact le_rfl
  | commit =>
      simp only [serve]
      split
      · exact le_rfl
      · split <;> simp [Database.land]
  | createIssue params =>
      simp only [serve]
      split
      · exact le_rfl
      · exact either _ le_rfl
  | mark installationID messageID token =>
      simp only [serve]
      split
      · exact either _ (marked token).ge
      · exact le_rfl
  | release installationID messageID token =>
      simp only [serve]
      split
      · exact either _ (released token).ge
      · exact le_rfl
  | _ => exact le_rfl

theorem step_messages (world : World) (action : Action) :
    world.database.messages ≤ (step delivery world action).database.messages := by
  cases action with
  | receive message =>
      simp only [step, World.receive]
      split <;> exact le_rfl
  | serve index environment fault started =>
      simp only [step, World.serve]
      split
      · exact le_rfl
      · split
        · exact le_rfl
        · split
          · exact le_rfl
          · exact serve_messages _ _ _ _ _ _
  | crash index sent =>
      simp only [step, World.crash]
      split <;> exact le_rfl
  | settle index commits =>
      simp only [step, World.settle]
      split
      · exact le_rfl
      · dsimp only
        split
        · exact Nat.le_add_right _ _
        · exact le_rfl
  | wait time => exact le_rfl

def AllLate (position : Nat) (tracked : List (Worker × Phase)) : Prop :=
  ∀ index pair, position ≤ index → tracked[index]? = some pair → pair.2.late = true

theorem Advances.allLate {stored : Prop} {tracked next : List (Worker × Phase)} {position : Nat}
    (advances : Advances stored tracked next) (holds : stored) (late : AllLate position tracked) :
    AllLate position next := by
  cases advances with
  | same => exact late
  | starts worker =>
      intro index pair after found
      by_cases old : index < tracked.length
      · rw [List.getElem?_append_left old] at found
        exact late index pair after found
      · rw [List.getElem?_append_right (by omega)] at found
        have same : pair = (worker, .opening) := by
          have member := List.mem_of_getElem? found
          simpa using member
        rw [same]
        rfl
  | moves index worker other phase later found kept =>
      intro position' pair after looked
      rw [List.getElem?_set] at looked
      by_cases same : index = position'
      · subst same
        have inside : index < tracked.length := (List.getElem?_eq_some_iff.mp found).1
        simp only [if_true, if_pos inside, Option.some.injEq] at looked
        rw [← looked]
        exact kept holds (late index _ after found)
      · rw [if_neg same] at looked
        exact late position' pair after looked

theorem run_late {position : Nat} (stored : 0 < world.database.messages)
    (tracks : Tracks delivery True world tracked) (late : AllLate position tracked)
    (actions : List Action) :
    ∃ next, Tracks delivery True (runFrom delivery world actions) next ∧ AllLate position next := by
  have kept := @RunLib.run_invariant _ _ (step delivery) (fun world => 0 < world.database.messages ∧
    ∃ next, Tracks delivery True world next ∧ AllLate position next) world
    ⟨stored, tracked, tracks, late⟩ ?_ actions
  · exact kept.2
  · rintro world action ⟨stored, tracked, tracks, late⟩
    obtain ⟨next, kept, advances⟩ := step_tracks tracks action (fun _ => trivial)
    exact ⟨Nat.lt_of_lt_of_le stored (step_messages world action), next, kept,
      advances.allLate stored late⟩

structure TurnedAway (delivery : Delivery) (worker : Worker) : Prop where
  writes : worker.transaction = none
  returns : ∀ result, worker.program = .done result →
    result = .ok (dropped (some delivery.installationID) .duplicate) ∨ Ends delivery .opening result

theorem turnedAway_of_late {worker : Worker} {phase : Phase} (follows : Follows delivery worker phase)
    (late : phase.late = true) : TurnedAway delivery worker := by
  refine ⟨?_, ?_⟩
  · by_cases crashed : worker.crashed = true
    · exact follows.idle crashed
    · have consistent := follows.consistent (by simpa using crashed)
      cases phase with
      | opening => exact consistent
      | turned => exact consistent
      | _ => exact absurd late (by simp [Phase.late])
  · intro result finished
    have ends := follows.obeys
    rw [finished] at ends
    cases phase with
    | opening => exact Or.inr ends
    | turned => exact Or.inl ends
    | _ => exact absurd late (by simp [Phase.late])

def Acquires (delivery : Delivery) (world : World) (started : Nat) : Prop :=
  ∀ index next environment,
    world.workers[index]? =
      some ⟨.call (.claim delivery.installationID delivery.messageID) next, none, false⟩ →
    resolves delivery environment = true → world.lockedFor index = false →
    let reached := step delivery world (.serve index environment .none started)
    reached.workers[index]? = some ⟨next (ClaimAnswer.claimed world.database.minted), none, false⟩ ∧
      reached.database.row = some ⟨world.database.minted, started, false⟩

theorem acquires_of_unprocessed {started : Nat} (past : started ≤ world.clock)
    (unprocessed : ∀ row, world.database.row = some row → row.processed = false)
    (old : ∀ row, world.database.row = some row → row.receivedAt + claimWindow < started) :
    Acquires delivery world started := by
  intro index next environment found resolved unlocked
  have inside : index < world.workers.length := (List.getElem?_eq_some_iff.mp found).1
  have given : world.database.claim started =
      ({ world.database with row := some ⟨world.database.minted, started, false⟩
                             minted := world.database.minted + 1 }, .claimed world.database.minted) := by
    unfold Database.claim
    cases present : world.database.row with
    | none => rfl
    | some row =>
        have stale : row.stale started = true := by
          simp [DedupRow.stale, unprocessed row present, old row present]
        dsimp only
        rw [if_pos stale]
  simp only [step, World.serve, found, resolved, unlocked, serve, Nat.min_eq_left past, given]
  simp [Fault.happens, Fault.report, inside]

/-- What a run guarantees of the message: it is stored once and makes one issue, whoever comes after is
turned away, and as long as no final mark has been asked for, nothing but a stored message or a claim
of the last minute keeps the next claim from being given. Only a declined message asks for that mark. -/
structure Idempotent (delivery : Delivery) (actions : List Action) : Prop where
  single : (runFrom delivery initial actions).database.messages ≤ 1
  issues : (runFrom delivery initial actions).database.issues ≤ 1
  duplicates : 0 < (runFrom delivery initial actions).database.messages →
    ∀ later index worker, (runFrom delivery initial actions).workers.length ≤ index →
      (runFrom delivery initial (actions ++ later)).workers[index]? = some worker →
      TurnedAway delivery worker
  acquires : RunLib.Every (step delivery) (fun world action => world.marks action = false) initial actions →
    (runFrom delivery initial actions).database.messages = 0 →
    ∀ started ≤ (runFrom delivery initial actions).clock,
      (∀ row, (runFrom delivery initial actions).database.row = some row →
        row.receivedAt + claimWindow < started) →
      Acquires delivery (runFrom delivery initial actions) started
  declines : ∀ (index : Nat) (worker : Worker) (installationID : ID) (messageID : String) (token : ID)
      (next : Unit → Program (Except Failure Result)),
    (runFrom delivery initial actions).workers[index]? = some worker →
    worker.program = .call (.mark installationID messageID token) next →
    ∃ result reason, next () = .done (.ok result) ∧ result.dropReason = some reason ∧
      reason.declines = true

theorem run_idempotent (delivery : Delivery) (actions : List Action) : Idempotent delivery actions := by
  obtain ⟨tracked, tracks⟩ := @run_tracks delivery True actions
    (@RunLib.every_of_preserved _ _ (step delivery) (fun _ => True)
      (fun world action => world.marks action = true → True) initial trivial (fun _ _ _ => trivial)
      (fun _ _ _ _ => trivial) actions)
  have books := tracks.accounts
  have single := books.single
  have issues := books.issues
  refine ⟨by omega, by omega, ?_, ?_, ?_⟩
  · intro stored later index worker after found
    have late : AllLate tracked.length tracked := by
      intro position pair beyond found
      rw [List.getElem?_eq_none beyond] at found
      cases found
    obtain ⟨next, kept, turned⟩ := run_late stored tracks late later
    rw [runFrom, RunLib.run_append, kept.workers, List.getElem?_map, Option.map_eq_some_iff] at found
    obtain ⟨pair, here, rfl⟩ := found
    rw [tracks.workers, List.length_map] at after
    exact turnedAway_of_late (kept.follows pair (List.mem_of_getElem? here)) (turned index pair after here)
  · intro unmarked none started past old
    obtain ⟨_, precise⟩ := @run_tracks delivery False actions
      (unmarked.mono fun _ _ calm asks => by rw [calm] at asks; cases asks)
    refine acquires_of_unprocessed past ?_ old
    intro row found
    by_contra processed
    rcases precise.accounts.owed row found (by simpa using processed) with stored | impossible
    · omega
    · exact impossible
  · intro index worker installationID messageID token next found asks
    have member := List.mem_of_getElem? found
    rw [tracks.workers] at member
    obtain ⟨⟨same, phase⟩, listed, rfl⟩ := List.mem_map.mp member
    have follows := tracks.follows _ listed
    have obeys := follows.obeys
    rw [asks] at obeys
    obtain ⟨later, moves, rest⟩ := obeys ()
    cases moves with
    | elsewhere => exact absurd rfl follows.own
    | mark _ reason =>
        cases after : next () with
        | call request further =>
            rw [after] at rest
            obtain ⟨answer⟩ := answer_exists request
            obtain ⟨_, moved, -⟩ := rest answer
            cases moved
        | done result =>
            rw [after] at rest
            obtain ⟨declines, answered, rfl, dropReason⟩ := rest
            exact ⟨answered, reason, rfl, dropReason, declines⟩

end Worlds

def NeverLost (delivery : Delivery) (actions : List Action) : Prop :=
  let world := runFrom delivery initial actions
  world.database.messages = 0 →
    (∀ row, world.database.row = some row → row.processed = false →
      row.receivedAt + claimWindow ≤ world.clock) →
    Acquires delivery world world.clock

def greeting : InboundMessage := { bareIssue with text := "hello" }

def strangerEnvironment : Environment
  | .resolveSender => .unbound
  | request => calmEnvironment request

def declinedRun : List Action :=
  [.receive greeting, .serve 0 strangerEnvironment .none 0, .serve 0 strangerEnvironment .none 0,
    .serve 0 strangerEnvironment .none 0, .serve 0 strangerEnvironment .none 0,
    .serve 0 strangerEnvironment .none 0, .receive greeting, .serve 1 strangerEnvironment .none 0]

def greetingDelivery : Delivery := ⟨1, "om_1", by decide⟩

theorem declinedRun_row : (runFrom greetingDelivery initial declinedRun).database = ⟨some ⟨0, 0, true⟩, 1, 0, 0⟩ := by
  decide +kernel

theorem declinedRun_lost : ¬∀ delivery actions, NeverLost delivery actions := by
  intro never
  have acquires : Acquires greetingDelivery (runFrom greetingDelivery initial declinedRun) _ :=
    never greetingDelivery declinedRun (by rw [declinedRun_row]) (by
      intro row found unprocessed
      rw [declinedRun_row] at found
      obtain rfl := Option.some.inj found
      cases unprocessed)
  have given := (acquires 1 _ strangerEnvironment rfl rfl (by decide +kernel)).2
  revert given
  decide +kernel

end MulticaOS.Channels
