import MulticaOS.Lib.Lists
import MulticaOS.Lib.Runs
import MulticaOS.Lib.Tables

/-!
The empty-claim cache of `empty_claim_cache.go` and its users in `task.go`: every
Redis command and every database statement is one step.  Times are in seconds.
A key that is past its time to live may be dropped at any later step.
-/

namespace MulticaOS.EmptyClaim

abbrev Runtime := Nat

def emptyClaimCacheTTL : Nat := 3 * 60
def emptyClaimVersionTTL : Nat := 24 * 60 * 60

structure Entry where
  value : Nat
  expiresAt : Option Nat
  deriving DecidableEq

inductive BumpStage where
  | committed
  | incremented
  | returned
  deriving DecidableEq

/-- One stay of a task in the queue; a requeued task starts a new one. -/
structure QueuedRow where
  id : Nat
  runtime : Runtime
  queued : Bool
  bump : BumpStage
  deriving DecidableEq

structure Claimer where
  id : Nat
  missed : List Runtime
  versions : List (Runtime × Nat)
  unmarked : List (Runtime × Nat)

structure State where
  now : Nat
  version : Runtime → Option Entry
  verdict : Runtime → Option Entry
  rows : List QueuedRow
  claimers : List Claimer

def initial : State :=
  { now := 0, version := fun _ => none, verdict := fun _ => none, rows := [], claimers := [] }

def setKey (keys : Runtime → Option Entry) (runtime : Runtime) (entry : Option Entry) :
    Runtime → Option Entry :=
  fun key => if key = runtime then entry else keys key

def due (now : Nat) : Option Entry → Bool
  | some { value := _, expiresAt := some deadline } => deadline ≤ now
  | _ => false

/-- The version as `CurrentVersion` and `IsEmpty` read it: a missing key is version 0. -/
def currentVersion (state : State) (runtime : Runtime) : Nat :=
  match state.version runtime with
  | some entry => entry.value
  | none => 0

def isEmpty (state : State) (runtime : Runtime) : Bool :=
  match state.verdict runtime with
  | some entry => entry.value = currentVersion state runtime
  | none => false

def incrVersion (state : State) (runtime : Runtime) : State :=
  let entry := match state.version runtime with
    | some entry => { entry with value := entry.value + 1 }
    | none => { value := 1, expiresAt := none }
  { state with version := setKey state.version runtime (some entry) }

def expireVersion (state : State) (runtime : Runtime) : State :=
  let entry := (state.version runtime).map fun entry =>
    { entry with expiresAt := some (state.now + emptyClaimVersionTTL) }
  { state with version := setKey state.version runtime entry }

def setBump (state : State) (row : QueuedRow) (stage : BumpStage) : State :=
  let advance := fun row : QueuedRow => { row with bump := stage }
  { state with rows := TableLib.updateWhere (fun other => other = row) advance state.rows }

def changeClaimer (state : State) (id : Nat) (change : Claimer → Claimer) : State :=
  { state with
      claimers := TableLib.updateWhere (fun claimer => claimer.id = id) change state.claimers }

def hasCandidate (state : State) (runtime : Runtime) : Bool :=
  state.rows.any fun row => row.runtime = runtime && row.queued

inductive Action where
  | tick (elapsed : Nat)
  | dropVersion (runtime : Runtime)
  | dropVerdict (runtime : Runtime)
  | commitRow (runtime : Runtime)
  | incrForRow (id : Nat)
  | expireForRow (id : Nat)
  | incrForFinished (runtime : Runtime)
  | expireForFinished (runtime : Runtime)
  | takeRow (id : Nat)
  | beginClaim
  | checkEmpty (claimer : Nat) (runtime : Runtime)
  | getVersion (claimer : Nat) (runtime : Runtime)
  | refreshVersion (claimer : Nat) (runtime : Runtime)
  | selectCandidates (claimer : Nat)
  | markEmpty (claimer : Nat) (runtime : Runtime)
  | endClaim (claimer : Nat)

def findRow (state : State) (id : Nat) (stage : BumpStage) : Option QueuedRow :=
  state.rows.find? fun row => row.id = id && row.bump = stage

def step (state : State) : Action → State
  | .tick elapsed => { state with now := state.now + elapsed }
  | .dropVersion runtime =>
      if due state.now (state.version runtime) then
        { state with version := setKey state.version runtime none }
      else state
  | .dropVerdict runtime =>
      if due state.now (state.verdict runtime) then
        { state with verdict := setKey state.verdict runtime none }
      else state
  | .commitRow runtime =>
      { state with rows := state.rows ++
          [{ id := state.rows.length, runtime, queued := true, bump := .committed }] }
  | .incrForRow id =>
      match findRow state id .committed with
      | none => state
      | some row => setBump (incrVersion state row.runtime) row .incremented
  | .expireForRow id =>
      match findRow state id .incremented with
      | none => state
      | some row => setBump (expireVersion state row.runtime) row .returned
  | .incrForFinished runtime => incrVersion state runtime
  | .expireForFinished runtime => expireVersion state runtime
  | .takeRow id =>
      let leave := fun row : QueuedRow => { row with queued := false }
      { state with rows := TableLib.updateWhere (fun row => row.id = id) leave state.rows }
  | .beginClaim =>
      { state with claimers := state.claimers ++
          [{ id := state.claimers.length, missed := [], versions := [], unmarked := [] }] }
  | .checkEmpty claimer runtime =>
      if isEmpty state runtime then state
      else changeClaimer state claimer fun claim => { claim with missed := runtime :: claim.missed }
  | .getVersion claimer runtime =>
      changeClaimer state claimer fun claim =>
        if runtime ∈ claim.missed then
          { claim with
              missed := claim.missed.erase runtime
              versions := (runtime, currentVersion state runtime) :: claim.versions }
        else claim
  | .refreshVersion claimer runtime =>
      if state.claimers.any fun claim => claim.id = claimer &&
          claim.versions.any fun sample => sample.1 = runtime && sample.2 ≠ 0
      then expireVersion state runtime
      else state
  | .selectCandidates claimer =>
      changeClaimer state claimer fun claim =>
        { claim with
            missed := []
            versions := []
            unmarked := claim.versions.filter fun sample => !hasCandidate state sample.1 }
  | .markEmpty claimer runtime =>
      match state.claimers.find? (fun claim => claim.id = claimer) with
      | none => state
      | some claim =>
          match claim.unmarked.lookup runtime with
          | none => state
          | some observedVersion =>
              let entry : Entry :=
                { value := observedVersion, expiresAt := some (state.now + emptyClaimCacheTTL) }
              let marked := changeClaimer state claimer fun claim =>
                { claim with unmarked := claim.unmarked.filter fun sample => sample.1 ≠ runtime }
              { marked with verdict := setKey state.verdict runtime (some entry) }
  | .endClaim claimer =>
      changeClaimer state claimer fun claim =>
        { claim with missed := [], versions := [], unmarked := [] }

structure Believable (state : State) (runtime : Runtime) (observed : Nat) : Prop where
  old : observed ≤ currentVersion state runtime
  current : observed = currentVersion state runtime → ∀ row ∈ state.rows,
    row.runtime = runtime → row.queued = true → row.bump = .committed

structure Sound (state : State) : Prop where
  sampled : ∀ claim ∈ state.claimers, ∀ sample ∈ claim.versions,
    sample.2 ≤ currentVersion state sample.1
  unmarked : ∀ claim ∈ state.claimers, ∀ sample ∈ claim.unmarked,
    Believable state sample.1 sample.2
  cached : ∀ runtime entry, state.verdict runtime = some entry →
    Believable state runtime entry.value

theorem initial_sound : Sound initial := by
  constructor <;> simp [initial]

/-- The runtime has a version that some claimer read, or a verdict, that could still be used. -/
def outstanding (state : State) (runtime : Runtime) : Bool :=
  (state.verdict runtime).isSome || state.claimers.any fun claim =>
    (claim.versions ++ claim.unmarked).any fun sample => sample.1 = runtime

def KeepsVersion (state : State) : Action → Prop
  | .dropVersion runtime => outstanding state runtime = false
  | _ => True

instance (state : State) (action : Action) : Decidable (KeepsVersion state action) := by
  cases action <;> unfold KeepsVersion <;> infer_instance

theorem currentVersion_setKey (state : State) (runtime other : Runtime) (entry : Option Entry) :
    currentVersion { state with version := setKey state.version runtime entry } other =
      if other = runtime then (match entry with | some entry => entry.value | none => 0)
      else currentVersion state other := by
  by_cases same : other = runtime
  · simp [currentVersion, setKey, same]
  · simp [currentVersion, setKey, same]

theorem currentVersion_incrVersion (state : State) (runtime other : Runtime) :
    currentVersion (incrVersion state runtime) other =
      if other = runtime then currentVersion state runtime + 1 else currentVersion state other := by
  rw [incrVersion, currentVersion_setKey]
  split
  · simp only [currentVersion]
    cases state.version runtime <;> rfl
  · rfl

theorem currentVersion_expireVersion (state : State) (runtime other : Runtime) :
    currentVersion (expireVersion state runtime) other = currentVersion state other := by
  rw [expireVersion, currentVersion_setKey]
  split
  · rename_i same
    subst same
    simp only [currentVersion]
    cases state.version other <;> rfl
  · rfl

theorem Believable.carry {state next : State} {runtime : Runtime} {observed : Nat}
    (believable : Believable state runtime observed)
    (kept : currentVersion next runtime = currentVersion state runtime)
    (rows : ∀ row ∈ next.rows, row.runtime = runtime → row.queued = true →
      row.bump = .committed ∨ ∃ old ∈ state.rows, old.runtime = runtime ∧ old.queued = true ∧
        (old.bump = .committed → row.bump = .committed)) :
    Believable next runtime observed := by
  constructor
  · rw [kept]
    exact believable.old
  · intro same row member atRuntime queued
    rcases rows row member atRuntime queued with fresh | ⟨old, listed, oldRuntime, oldQueued, stage⟩
    · exact fresh
    · exact stage (believable.current (by rw [same, kept]) old listed oldRuntime oldQueued)

theorem Believable.outdated {state next : State} {runtime : Runtime} {observed : Nat}
    (believable : Believable state runtime observed)
    (raised : currentVersion state runtime < currentVersion next runtime) :
    Believable next runtime observed := by
  have old := believable.old
  exact ⟨by omega, fun same => by omega⟩

def RowsFollow (state next : State) : Prop :=
  ∀ row ∈ next.rows, row.queued = true → row.bump = .committed ∨
    ∃ old ∈ state.rows, old.runtime = row.runtime ∧ old.queued = true ∧
      (old.bump = .committed → row.bump = .committed)

def ClaimersFollow (state next : State) : Prop :=
  ∀ claim ∈ next.claimers,
    (∀ sample ∈ claim.versions, ∃ old ∈ state.claimers, sample ∈ old.versions) ∧
    (∀ sample ∈ claim.unmarked, ∃ old ∈ state.claimers, sample ∈ old.unmarked)

theorem rowsFollow_refl (state : State) : RowsFollow state state :=
  fun row member queued => Or.inr ⟨row, member, rfl, queued, id⟩

theorem claimersFollow_refl (state : State) : ClaimersFollow state state :=
  fun claim member => ⟨fun _ held => ⟨claim, member, held⟩, fun _ held => ⟨claim, member, held⟩⟩

theorem Believable.follow {state next : State} {runtime : Runtime} {observed : Nat}
    (believable : Believable state runtime observed)
    (kept : currentVersion next runtime = currentVersion state runtime)
    (rows : RowsFollow state next) : Believable next runtime observed := by
  refine believable.carry kept fun row member atRuntime queued => ?_
  rcases rows row member queued with fresh | ⟨old, listed, sameRuntime, oldQueued, stage⟩
  · exact Or.inl fresh
  · exact Or.inr ⟨old, listed, by rw [sameRuntime, atRuntime], oldQueued, stage⟩

theorem Sound.follow {state next : State} (sound : Sound state)
    (kept : ∀ runtime, currentVersion next runtime = currentVersion state runtime)
    (rows : RowsFollow state next) (claimers : ClaimersFollow state next)
    (verdicts : ∀ runtime entry, next.verdict runtime = some entry →
      state.verdict runtime = some entry) : Sound next := by
  constructor
  · intro claim member sample held
    obtain ⟨old, listed, heldBefore⟩ := (claimers claim member).1 sample held
    rw [kept]
    exact sound.sampled old listed sample heldBefore
  · intro claim member sample held
    obtain ⟨old, listed, heldBefore⟩ := (claimers claim member).2 sample held
    exact (sound.unmarked old listed sample heldBefore).follow (kept _) rows
  · intro runtime entry found
    exact (sound.cached runtime entry (verdicts runtime entry found)).follow (kept _) rows

theorem claimersFollow_change {state : State} {id : Nat} {change : Claimer → Claimer}
    (versions : ∀ claim, (change claim).versions ⊆ claim.versions)
    (unmarked : ∀ claim, (change claim).unmarked ⊆ claim.unmarked) :
    ClaimersFollow state (changeClaimer state id change) := by
  intro claim member
  rcases TableLib.mem_updateWhere member with ⟨listed, -⟩ | ⟨old, listed, -, rfl⟩
  · exact claimersFollow_refl state claim listed
  · exact ⟨fun sample held => ⟨old, listed, versions old held⟩,
      fun sample held => ⟨old, listed, unmarked old held⟩⟩

theorem rowsFollow_setBump {state : State} {row : QueuedRow} {stage : BumpStage}
    (advanced : row.bump ≠ .committed) : RowsFollow state (setBump state row stage) := by
  intro next member queued
  rcases TableLib.mem_updateWhere member with ⟨listed, -⟩ | ⟨old, listed, matched, rfl⟩
  · exact rowsFollow_refl state next listed queued
  · have same : old = row := by simpa using matched
    exact Or.inr ⟨old, listed, rfl, queued, fun committed => absurd committed (same ▸ advanced)⟩

theorem findRow_bump {state : State} {id : Nat} {stage : BumpStage} {row : QueuedRow}
    (found : findRow state id stage = some row) : row.bump = stage := by
  have matched := List.find?_some found
  simp only [Bool.and_eq_true, decide_eq_true_eq] at matched
  exact matched.2

theorem Sound.increment {state next : State} {runtime : Runtime} (sound : Sound state)
    (version : ∀ other, currentVersion next other =
      if other = runtime then currentVersion state runtime + 1 else currentVersion state other)
    (rows : ∀ row ∈ next.rows, row.runtime ≠ runtime → row ∈ state.rows)
    (claimers : next.claimers = state.claimers) (verdicts : next.verdict = state.verdict) :
    Sound next := by
  have believable : ∀ {other observed}, Believable state other observed →
      Believable next other observed := by
    intro other observed before
    have now := version other
    by_cases same : other = runtime
    · rw [if_pos same] at now
      subst same
      exact before.outdated (by omega)
    · rw [if_neg same] at now
      refine before.carry now fun row member atRuntime queued => Or.inr ?_
      exact ⟨row, rows row member (by rw [atRuntime]; exact same), atRuntime, queued, id⟩
  constructor
  · intro claim member sample held
    rw [claimers] at member
    have before := sound.sampled claim member sample held
    have now := version sample.1
    split at now
    · rename_i same
      rw [same] at before now ⊢
      omega
    · omega
  · intro claim member sample held
    rw [claimers] at member
    exact believable (sound.unmarked claim member sample held)
  · intro other entry found
    rw [verdicts] at found
    exact believable (sound.cached other entry found)

theorem Sound.dropVersion {state : State} {runtime : Runtime} (sound : Sound state)
    (unused : outstanding state runtime = false) :
    Sound { state with version := setKey state.version runtime none } := by
  simp only [outstanding, Bool.or_eq_false_iff, Option.isSome_eq_false_iff, Option.isNone_iff_eq_none,
    List.any_eq_false] at unused
  obtain ⟨noVerdict, noSample⟩ := unused
  have kept : ∀ {other}, other ≠ runtime →
      currentVersion { state with version := setKey state.version runtime none } other =
        currentVersion state other := by
    intro other different
    rw [currentVersion_setKey, if_neg different]
  have others : ∀ claim ∈ state.claimers, ∀ sample, sample ∈ claim.versions ∨ sample ∈ claim.unmarked →
      sample.1 ≠ runtime := by
    intro claim member sample held same
    refine noSample claim member (List.any_eq_true.mpr ⟨sample, List.mem_append.mpr held, ?_⟩)
    simpa using same
  constructor
  · intro claim member sample held
    rw [kept (others claim member sample (Or.inl held))]
    exact sound.sampled claim member sample held
  · intro claim member sample held
    exact (sound.unmarked claim member sample held).follow
      (kept (others claim member sample (Or.inr held))) (rowsFollow_refl _)
  · intro other entry found
    have different : other ≠ runtime := by
      rintro rfl
      rw [noVerdict] at found
      contradiction
    exact (sound.cached other entry found).follow (kept different) (rowsFollow_refl _)

theorem Sound.getVersion {state : State} (sound : Sound state) (id : Nat) (runtime : Runtime) :
    Sound (step state (.getVersion id runtime)) := by
  have kept : ∀ other, currentVersion (step state (.getVersion id runtime)) other =
      currentVersion state other := fun _ => rfl
  constructor
  · intro claim member sample held
    rw [kept]
    rcases TableLib.mem_updateWhere member with ⟨listed, -⟩ | ⟨old, listed, -, rfl⟩
    · exact sound.sampled claim listed sample held
    · split at held
      · rcases List.mem_cons.mp held with rfl | before
        · exact Nat.le_refl _
        · exact sound.sampled old listed sample before
      · exact sound.sampled old listed sample held
  · intro claim member sample held
    rcases TableLib.mem_updateWhere member with ⟨listed, -⟩ | ⟨old, listed, -, rfl⟩
    · exact (sound.unmarked claim listed sample held).follow (kept _) (rowsFollow_refl _)
    · split at held
      · exact (sound.unmarked old listed sample held).follow (kept _) (rowsFollow_refl _)
      · exact (sound.unmarked old listed sample held).follow (kept _) (rowsFollow_refl _)
  · intro other entry found
    exact (sound.cached other entry found).follow (kept _) (rowsFollow_refl _)

theorem Sound.selectCandidates {state : State} (sound : Sound state) (id : Nat) :
    Sound (step state (.selectCandidates id)) := by
  have kept : ∀ other, currentVersion (step state (.selectCandidates id)) other =
      currentVersion state other := fun _ => rfl
  constructor
  · intro claim member sample held
    rw [kept]
    rcases TableLib.mem_updateWhere member with ⟨listed, -⟩ | ⟨old, listed, -, rfl⟩
    · exact sound.sampled claim listed sample held
    · exact absurd held (by simp)
  · intro claim member sample held
    rcases TableLib.mem_updateWhere member with ⟨listed, -⟩ | ⟨old, listed, -, rfl⟩
    · exact (sound.unmarked claim listed sample held).follow (kept _) (rowsFollow_refl _)
    · obtain ⟨read, none⟩ := List.mem_filter.mp held
      refine ⟨sound.sampled old listed sample read, fun _ row inTable atRuntime queued => ?_⟩
      have candidate : hasCandidate state sample.1 = true :=
        List.any_eq_true.mpr ⟨row, inTable, by simp [atRuntime, queued]⟩
      simp [candidate] at none
  · intro other entry found
    exact (sound.cached other entry found).follow (kept _) (rowsFollow_refl _)

theorem Sound.markEmpty {state : State} (sound : Sound state) (id : Nat) (runtime : Runtime) :
    Sound (step state (.markEmpty id runtime)) := by
  simp only [step]
  split
  · exact sound
  · rename_i claim found
    split
    · exact sound
    · rename_i observed noted
      have listed := List.mem_of_find?_eq_some found
      have verdict := sound.unmarked claim listed _ (ListLib.mem_of_lookup noted)
      have marked : Sound (changeClaimer state id fun claim =>
          { claim with unmarked := claim.unmarked.filter fun sample => sample.1 ≠ runtime }) := by
        refine sound.follow (fun _ => rfl) (rowsFollow_refl _) ?_ (fun _ _ found => found)
        exact claimersFollow_change (fun _ _ held => held)
          (fun _ _ held => (List.mem_filter.mp held).1)
      constructor
      · exact marked.sampled
      · exact fun claim member sample held =>
          (marked.unmarked claim member sample held).follow rfl (rowsFollow_refl _)
      · intro other entry stored
        simp only [setKey] at stored
        split at stored
        · rename_i same
          cases stored
          subst same
          exact verdict.follow rfl (rowsFollow_refl _)
        · exact (sound.cached other entry stored).follow rfl (rowsFollow_refl _)

theorem Sound.step {state : State} (sound : Sound state) (action : Action)
    (keeps : KeepsVersion state action) : Sound (step state action) := by
  have same : ∀ {next : State}, next.version = state.version →
      ∀ runtime, currentVersion next runtime = currentVersion state runtime := by
    intro next versions runtime
    simp only [currentVersion, versions]
  cases action with
  | tick elapsed =>
      refine sound.follow (same rfl) (rowsFollow_refl _) (claimersFollow_refl _) ?_
      exact fun _ _ found => found
  | dropVersion runtime =>
      simp only [EmptyClaim.step]
      split
      · exact sound.dropVersion keeps
      · exact sound
  | dropVerdict runtime =>
      simp only [EmptyClaim.step]
      split
      · refine sound.follow (same rfl) (rowsFollow_refl _) (claimersFollow_refl _) ?_
        intro other entry found
        simp only [setKey] at found
        split at found
        · contradiction
        · exact found
      · exact sound
  | commitRow runtime =>
      refine sound.follow (same rfl) ?_ (claimersFollow_refl _) fun _ _ found => found
      intro row member queued
      rcases List.mem_append.mp member with listed | fresh
      · exact rowsFollow_refl state row listed queued
      · rw [List.mem_singleton] at fresh
        exact Or.inl (by rw [fresh])
  | incrForRow id =>
      simp only [EmptyClaim.step]
      split
      · exact sound
      · rename_i row found
        refine sound.increment (fun other => currentVersion_incrVersion state row.runtime other) ?_
          rfl rfl
        intro next member different
        rcases TableLib.mem_updateWhere member with ⟨listed, -⟩ | ⟨old, listed, matched, rfl⟩
        · exact listed
        · have equal : old = row := by simpa using matched
          exact absurd (by rw [equal]) different
  | expireForRow id =>
      simp only [EmptyClaim.step]
      split
      · exact sound
      · rename_i row found
        refine sound.follow (fun other => currentVersion_expireVersion state row.runtime other) ?_
          (claimersFollow_refl _) fun _ _ found => found
        exact @rowsFollow_setBump (expireVersion state row.runtime) row .returned
          (by rw [findRow_bump found]; decide)
  | incrForFinished runtime =>
      exact sound.increment (currentVersion_incrVersion state runtime)
        (fun row member _ => member) rfl rfl
  | expireForFinished runtime =>
      exact sound.follow (currentVersion_expireVersion state runtime) (rowsFollow_refl _)
        (claimersFollow_refl _) fun _ _ found => found
  | takeRow id =>
      refine sound.follow (same rfl) ?_ (claimersFollow_refl _) fun _ _ found => found
      intro row member queued
      rcases TableLib.mem_updateWhere member with ⟨listed, -⟩ | ⟨old, listed, -, rfl⟩
      · exact rowsFollow_refl state row listed queued
      · exact absurd queued (by simp)
  | beginClaim =>
      refine sound.follow (same rfl) (rowsFollow_refl _) ?_ fun _ _ found => found
      intro claim member
      rcases List.mem_append.mp member with listed | fresh
      · exact claimersFollow_refl state claim listed
      · rw [List.mem_singleton] at fresh
        subst fresh
        exact ⟨by simp, by simp⟩
  | checkEmpty id runtime =>
      simp only [EmptyClaim.step]
      split
      · exact sound
      · refine sound.follow (same rfl) (rowsFollow_refl _) ?_ fun _ _ found => found
        exact claimersFollow_change (fun _ _ held => held) (fun _ _ held => held)
  | getVersion id runtime => exact sound.getVersion id runtime
  | refreshVersion id runtime =>
      simp only [EmptyClaim.step]
      split
      · exact sound.follow (currentVersion_expireVersion state runtime) (rowsFollow_refl _)
          (claimersFollow_refl _) fun _ _ found => found
      · exact sound
  | selectCandidates id => exact sound.selectCandidates id
  | markEmpty id runtime => exact sound.markEmpty id runtime
  | endClaim id =>
      refine sound.follow (same rfl) (rowsFollow_refl _) ?_ fun _ _ found => found
      exact claimersFollow_change (by simp) (by simp)

def NothingHidden (state : State) : Prop :=
  ∀ row ∈ state.rows, row.queued = true → row.bump = .returned → isEmpty state row.runtime = false

theorem Sound.nothingHidden {state : State} (sound : Sound state) : NothingHidden state := by
  intro row member queued returned
  rw [isEmpty]
  split
  · rename_i entry cached
    simp only [decide_eq_false_iff_not]
    intro current
    have committed := (sound.cached row.runtime entry cached).current current row member rfl queued
    rw [returned] at committed
    contradiction
  · rfl

/-- In every run that never loses a version key while a version read before could still be
used, `IsEmpty` is false for every queued row whose own bump has returned. -/
theorem isEmpty_hides_no_row (actions : List Action)
    (keeps : RunLib.Every step KeepsVersion initial actions) :
    RunLib.Always step NothingHidden initial actions :=
  (RunLib.always_of_invariant initial_sound
    (fun _ action sound allowed => sound.step action allowed) keeps).mono
    fun _ sound => sound.nothingHidden

instance : DecidablePred NothingHidden := fun state =>
  inferInstanceAs (Decidable (∀ row ∈ state.rows, _ → _ → _))

def slowClaim : List Action :=
  [.beginClaim, .checkEmpty 0 7, .getVersion 0 7, .selectCandidates 0, .commitRow 7, .incrForRow 0,
    .expireForRow 0, .markEmpty 0 7]

theorem isEmpty_hides_no_row_slowClaim : RunLib.Always step NothingHidden initial slowClaim :=
  isEmpty_hides_no_row slowClaim (by decide)

/-- The version key runs out between the `GET` and the `EXPIRE` of `CurrentVersion`; the next
bump restarts the counter at the version that was read. -/
def expiryRace : List Action :=
  [.commitRow 7, .incrForRow 0, .expireForRow 0, .takeRow 0, .tick (emptyClaimVersionTTL - 1),
    .beginClaim, .checkEmpty 0 7, .getVersion 0 7, .tick 1, .dropVersion 7, .refreshVersion 0 7,
    .selectCandidates 0, .commitRow 7, .incrForRow 1, .expireForRow 1, .markEmpty 0 7]

theorem isEmpty_hides_row_expiryRace :
    ¬ NothingHidden (RunLib.run step initial expiryRace) := by decide

end MulticaOS.EmptyClaim
