import MulticaOS.Lib.Lists
import MulticaOS.Lib.Runs
import MulticaOS.Snapshots.Refresh

/-!
An address that is marked active has one holder, the queue or a goroutine, and at most one
fetch.  What has been enqueued and not yet fetched or dropped is owed: its holder has the
fetch before it, or the trailing edge will bring it.
-/

namespace MulticaOS.Snapshots

def Phase.held : Phase → Option Address
  | .took address => some address
  | .cleared address => some address
  | .jittering address => some address
  | .fetching address => some address
  | .ended address => some address
  | .sending _ address => some address
  | .releasing _ _ address => some address
  | .deferred _ address => some address
  | _ => none

def Phase.flying : Phase → Option Address
  | .jittering address => some address
  | .fetching address => some address
  | .ended address => some address
  | _ => none

def Phase.spent : Phase → Option Address
  | .fetching address => some address
  | .ended address => some address
  | _ => none

def count (measure : Phase → Option Address) (manager : Manager) (address : Address) : Nat :=
  manager.goroutines.countP fun phase => measure phase = some address

def pending (address : Address) : List Event → Bool
  | [] => false
  | .enqueued other :: earlier => if other = address then true else pending address earlier
  | .fetched other :: earlier => if other = address then false else pending address earlier
  | .dropped other :: earlier => if other = address then false else pending address earlier

def Owed (manager : Manager) (address : Address) : Prop :=
  manager.active address = true ∧
    (manager.trailing address = true ∨ count Phase.spent manager address = 0)

structure Fits (manager : Manager) (address : Address) : Prop where
  single : manager.queue.count address + count Phase.held manager address =
    (manager.active address).toNat
  flights : count Phase.flying manager address = (manager.inFlight address).toNat
  trailing : manager.trailing address = true → manager.inFlight address = true
  owed : pending address manager.history = true → manager.cancelled = true ∨ Owed manager address

structure Sound (manager : Manager) : Prop where
  fits : ∀ address, Fits manager address
  silent : ∀ worker address, .releasing worker false address ∈ manager.goroutines →
    manager.cancelled = true

structure Local (manager changed : Manager) (address : Address) : Prop where
  goroutines : changed.goroutines = manager.goroutines
  cancelled : changed.cancelled = manager.cancelled
  queue : ∀ other, other ≠ address → changed.queue.count other = manager.queue.count other
  active : ∀ other, other ≠ address → changed.active other = manager.active other
  inFlight : ∀ other, other ≠ address → changed.inFlight other = manager.inFlight other
  trailing : ∀ other, other ≠ address → changed.trailing other = manager.trailing other
  history : ∀ other, other ≠ address → pending other changed.history = pending other manager.history

section Counts

variable {manager changed : Manager} {index : Nat} {old phase : Phase} {address other : Address}

theorem count_become (measure : Phase → Option Address) (address : Address)
    (same : changed.goroutines = manager.goroutines) (here : manager.goroutines[index]? = some old)
    (phase : Phase) :
    count measure (become changed index phase) address +
        (if measure old = some address then 1 else 0) =
      count measure manager address + (if measure phase = some address then 1 else 0) := by
  have counted := ListLib.countP_set phase (fun phase => decide (measure phase = some address)) here
  simpa [count, become, same] using counted

theorem count_go (measure : Phase → Option Address) (address : Address) (phase : Phase) :
    count measure (go manager phase) address =
      count measure manager address + (if measure phase = some address then 1 else 0) := by
  simp [count, go, List.countP_append, List.countP_cons]

theorem Phase.held_of_flying (flies : phase.flying = some address) : phase.held = some address := by
  cases phase with
  | jittering other => exact flies
  | fetching other => exact flies
  | ended other => exact flies
  | _ => contradiction

theorem Phase.flying_of_spent (began : phase.spent = some address) : phase.flying = some address := by
  cases phase with
  | fetching other => exact began
  | ended other => exact began
  | _ => contradiction

theorem flying_le_held (manager : Manager) (address : Address) :
    count Phase.flying manager address ≤ count Phase.held manager address :=
  List.countP_mono_left fun phase _ flies => by
    have flies := of_decide_eq_true flies
    exact decide_eq_true (Phase.held_of_flying flies)

theorem spent_le_flying (manager : Manager) (address : Address) :
    count Phase.spent manager address ≤ count Phase.flying manager address :=
  List.countP_mono_left fun phase _ began => by
    have began := of_decide_eq_true began
    exact decide_eq_true (Phase.flying_of_spent began)

theorem Fits.of_same {next : Manager} (fits : Fits manager other)
    (queue : next.queue.count other = manager.queue.count other)
    (counts : ∀ measure ∈ [Phase.held, Phase.flying, Phase.spent],
      count measure next other = count measure manager other)
    (active : next.active other = manager.active other)
    (inFlight : next.inFlight other = manager.inFlight other)
    (trailing : next.trailing other = manager.trailing other)
    (history : pending other next.history = pending other manager.history)
    (cancelled : manager.cancelled = true → next.cancelled = true) : Fits next other := by
  have held := counts Phase.held (by simp)
  have flying := counts Phase.flying (by simp)
  have spent := counts Phase.spent (by simp)
  constructor
  · rw [queue, held, active]
    exact fits.single
  · rw [flying, inFlight]
    exact fits.flights
  · rw [trailing, inFlight]
    exact fits.trailing
  · rw [history]
    intro waits
    rcases fits.owed waits with stops | ⟨marked, edge⟩
    · exact Or.inl (cancelled stops)
    · exact Or.inr ⟨active.trans marked, by rw [trailing, spent]; exact edge⟩

theorem measure_ne (apart : phase.held ≠ some other) :
    ∀ measure ∈ [Phase.held, Phase.flying, Phase.spent], measure phase ≠ some other := by
  intro measure listed same
  simp only [List.mem_cons, List.not_mem_nil, or_false] at listed
  rcases listed with rfl | rfl | rfl
  · exact apart same
  · exact apart (Phase.held_of_flying same)
  · exact apart (Phase.held_of_flying (Phase.flying_of_spent same))

theorem become_elsewhere (narrow : Local manager changed address)
    (here : manager.goroutines[index]? = some old) (before : old.held ≠ some other)
    (after : phase.held ≠ some other) (apart : other ≠ address) (fits : Fits manager other) :
    Fits (become changed index phase) other := by
  refine fits.of_same (narrow.queue other apart) (fun measure listed => ?_) (narrow.active other apart)
    (narrow.inFlight other apart) (narrow.trailing other apart) (narrow.history other apart)
    fun stops => narrow.cancelled.trans stops
  have counted := count_become measure other narrow.goroutines here phase
  rw [if_neg (measure_ne before measure listed), if_neg (measure_ne after measure listed)] at counted
  exact counted

theorem go_elsewhere (apart : phase.held ≠ some other) (fits : Fits manager other) :
    Fits (go manager phase) other := by
  refine fits.of_same rfl (fun measure listed => ?_) rfl rfl rfl rfl fun stops => stops
  rw [count_go measure other phase, if_neg (measure_ne apart measure listed)]
  rfl

theorem count_pos (measure : Phase → Option Address) (here : manager.goroutines[index]? = some old)
    (measured : measure old = some address) : 0 < count measure manager address :=
  List.countP_pos_iff.mpr ⟨old, List.mem_of_getElem? here, by simpa using measured⟩

theorem Fits.alone (fits : Fits manager address) (here : manager.goroutines[index]? = some old)
    (holds : old.held = some address) :
    manager.active address = true ∧ manager.queue.count address = 0 ∧
      count Phase.held manager address = 1 := by
  have positive := count_pos Phase.held here holds
  have single := fits.single
  cases marked : manager.active address with
  | false =>
      rw [marked, Bool.toNat_false] at single
      omega
  | true =>
      rw [marked, Bool.toNat_true] at single
      exact ⟨rfl, by omega, by omega⟩

theorem Fits.grounded (fits : Fits manager address) (here : manager.goroutines[index]? = some old)
    (holds : old.held = some address) :
    count Phase.flying manager address = (if old.flying = some address then 1 else 0) ∧
      count Phase.spent manager address = (if old.spent = some address then 1 else 0) := by
  obtain ⟨-, -, one⟩ := fits.alone here holds
  have held := count_become Phase.held address rfl here .idle
  have flying := count_become Phase.flying address rfl here .idle
  have spent := count_become Phase.spent address rfl here .idle
  have flyingLe := flying_le_held (become manager index .idle) address
  have spentLe := spent_le_flying (become manager index .idle) address
  have idle := measure_ne (show Phase.idle.held ≠ some address from nofun)
  rw [if_pos holds, if_neg (idle Phase.held (by simp))] at held
  rw [if_neg (idle Phase.flying (by simp))] at flying
  rw [if_neg (idle Phase.spent (by simp))] at spent
  exact ⟨by omega, by omega⟩

theorem Fits.unheld (fits : Fits manager address) (unmarked : manager.active address = false) :
    manager.queue.count address = 0 ∧ count Phase.held manager address = 0 ∧
      count Phase.flying manager address = 0 ∧ count Phase.spent manager address = 0 := by
  have single := fits.single
  have flyingLe := flying_le_held manager address
  have spentLe := spent_le_flying manager address
  rw [unmarked, Bool.toNat_false] at single
  exact ⟨by omega, by omega, by omega, by omega⟩

theorem moved_sound (sound : Sound manager) (narrow : Local manager changed address)
    (here : manager.goroutines[index]? = some old)
    (before : ∀ other, other ≠ address → old.held ≠ some other)
    (after : ∀ other, other ≠ address → phase.held ≠ some other)
    (quiet : ∀ worker other, phase = .releasing worker false other → manager.cancelled = true)
    (fits : Fits (become changed index phase) address) : Sound (become changed index phase) := by
  constructor
  · intro other
    by_cases same : other = address
    · rw [same]
      exact fits
    · exact become_elsewhere narrow here (before other same) (after other same) same (sound.fits other)
  · intro worker other member
    have member : Phase.releasing worker false other ∈ changed.goroutines.set index phase := member
    rw [narrow.goroutines] at member
    refine narrow.cancelled.trans ?_
    rcases List.mem_or_eq_of_mem_set member with listed | same
    · exact sound.silent worker other listed
    · exact quiet worker other same.symm

end Counts

section Steps

variable {manager changed : Manager} {index : Nat} {old phase : Phase} {address : Address}

theorem held_fits (fits : Fits manager address) (narrow : Local manager changed address)
    (here : manager.goroutines[index]? = some old) (holds : old.held = some address)
    (single : changed.queue.count address + (if phase.held = some address then 1 else 0) =
      (changed.active address).toNat)
    (flights : (if phase.flying = some address then 1 else 0) = (changed.inFlight address).toNat)
    (trailing : changed.trailing address = true → changed.inFlight address = true)
    (owed : pending address changed.history = true → manager.cancelled = true ∨
      changed.active address = true ∧
        (changed.trailing address = true ∨ phase.spent ≠ some address)) :
    Fits (become changed index phase) address := by
  obtain ⟨-, -, one⟩ := fits.alone here holds
  obtain ⟨flyingOne, spentOne⟩ := fits.grounded here holds
  have held := count_become Phase.held address narrow.goroutines here phase
  have flying := count_become Phase.flying address narrow.goroutines here phase
  have spent := count_become Phase.spent address narrow.goroutines here phase
  rw [one, if_pos holds] at held
  rw [flyingOne] at flying
  rw [spentOne] at spent
  constructor
  · show changed.queue.count address + _ = (changed.active address).toNat
    omega
  · show _ = (changed.inFlight address).toNat
    omega
  · exact trailing
  · intro waits
    rcases owed waits with stops | ⟨marked, edge | began⟩
    · exact Or.inl (narrow.cancelled.trans stops)
    · exact Or.inr ⟨marked, Or.inl edge⟩
    · rw [if_neg began] at spent
      exact Or.inr ⟨marked, Or.inr (by omega)⟩

theorem only {address : Address} : ∀ other, other ≠ address → some address ≠ some other :=
  fun _ apart same => apart (Option.some.inj same).symm

theorem Local.of_eq (same : changed.goroutines = manager.goroutines)
    (cancelled : changed.cancelled = manager.cancelled) (queue : changed.queue = manager.queue)
    (active : changed.active = manager.active) (inFlight : changed.inFlight = manager.inFlight)
    (trailing : changed.trailing = manager.trailing) (history : changed.history = manager.history) :
    Local manager changed address := by
  refine ⟨same, cancelled, ?_, ?_, ?_, ?_, ?_⟩
  · exact fun _ _ => by rw [queue]
  · exact fun _ _ => by rw [active]
  · exact fun _ _ => by rw [inFlight]
  · exact fun _ _ => by rw [trailing]
  · exact fun _ _ => by rw [history]

theorem update_apart (flags : Address → Bool) (value : Bool) :
    ∀ other, other ≠ address → Function.update flags address value other = flags other :=
  fun _ apart => Function.update_of_ne apart value flags

theorem passed_sound (sound : Sound manager) (narrow : Local manager changed address)
    (queue : changed.queue = manager.queue) (active : changed.active = manager.active)
    (inFlight : changed.inFlight = manager.inFlight) (trailing : changed.trailing = manager.trailing)
    (history : changed.history = manager.history)
    (here : manager.goroutines[index]? = some old) (holds : old.held = some address)
    (kept : phase.held = some address) (flies : phase.flying = old.flying)
    (begins : phase.spent = some address → old.spent = some address)
    (quiet : ∀ worker other, phase = .releasing worker false other → manager.cancelled = true) :
    Sound (become changed index phase) := by
  have fits := sound.fits address
  obtain ⟨marked, unqueued, -⟩ := fits.alone here holds
  obtain ⟨flying, spent⟩ := fits.grounded here holds
  refine moved_sound sound narrow here (fun other apart => ?_) (fun other apart => ?_) quiet ?_
  · rw [holds]
    exact only other apart
  · rw [kept]
    exact only other apart
  · refine held_fits fits narrow here holds ?_ ?_ ?_ ?_
    · rw [queue, unqueued, active, marked, if_pos kept]
      rfl
    · rw [inFlight, ← fits.flights, flying, flies]
    · rw [trailing, inFlight]
      exact fits.trailing
    · rw [history, active, trailing]
      intro waits
      rcases fits.owed waits with stops | ⟨-, edge | landed⟩
      · exact Or.inl stops
      · exact Or.inr ⟨marked, Or.inl edge⟩
      · refine Or.inr ⟨marked, Or.inr fun began => ?_⟩
        rw [spent, if_pos (begins began)] at landed
        contradiction

theorem Sound.of_eq (sound : Sound manager) (same : changed.goroutines = manager.goroutines)
    (cancelled : manager.cancelled = true → changed.cancelled = true)
    (queue : changed.queue = manager.queue)
    (active : changed.active = manager.active) (inFlight : changed.inFlight = manager.inFlight)
    (trailing : changed.trailing = manager.trailing) (history : changed.history = manager.history) :
    Sound changed := by
  constructor
  · intro other
    refine (sound.fits other).of_same ?_ (fun measure _ => ?_) ?_ ?_ ?_ ?_ cancelled
    · rw [queue]
    · simp only [count, same]
    · rw [active]
    · rw [inFlight]
    · rw [trailing]
    · rw [history]
  · intro worker other member
    rw [same] at member
    exact cancelled (sound.silent worker other member)

theorem go_sound (sound : Sound manager) (unheld : phase.held = none) : Sound (go manager phase) := by
  constructor
  · exact fun other => go_elsewhere (by rw [unheld]; exact nofun) (sound.fits other)
  · intro worker other member
    rcases List.mem_append.mp member with listed | same
    · exact sound.silent worker other listed
    · rw [← List.mem_singleton.mp same] at unheld
      contradiction

theorem unheld_sound (sound : Sound manager) (here : manager.goroutines[index]? = some old)
    (before : old.held = none) (after : phase.held = none) : Sound (become manager index phase) := by
  constructor
  · intro other
    refine (sound.fits other).of_same rfl (fun measure listed => ?_) rfl rfl rfl rfl fun stops => stops
    have counted := count_become measure other rfl here phase
    rw [if_neg (measure_ne (by rw [before]; exact nofun) measure listed),
      if_neg (measure_ne (by rw [after]; exact nofun) measure listed)] at counted
    exact counted
  · intro worker other member
    rcases List.mem_or_eq_of_mem_set member with listed | same
    · exact sound.silent worker other listed
    · rw [← same] at after
      contradiction

theorem take_sound {others : List Address} (sound : Sound manager)
    (here : manager.goroutines[index]? = some .idle) (stored : manager.queue = address :: others) :
    Sound (become { manager with queue := others } index (.took address)) := by
  have narrow : Local manager { manager with queue := others } address := by
    refine ⟨rfl, rfl, ?_, fun _ _ => rfl, fun _ _ => rfl, fun _ _ => rfl, fun _ _ => rfl⟩
    intro other apart
    rw [stored, List.count_cons_of_ne (Ne.symm apart)]
  have fits := sound.fits address
  have held := count_become Phase.held address narrow.goroutines here (.took address)
  have flying := count_become Phase.flying address narrow.goroutines here (.took address)
  have spent := count_become Phase.spent address narrow.goroutines here (.took address)
  refine moved_sound sound narrow here nofun only nofun ⟨?_, flying.trans fits.flights, fits.trailing, ?_⟩
  · have single := fits.single
    rw [stored, List.count_cons_self] at single
    simp only [Phase.held, reduceCtorEq, if_false, if_true] at held
    show others.count address + _ = (manager.active address).toNat
    omega
  · intro waits
    rcases fits.owed waits with stops | ⟨marked, edge | landed⟩
    · exact Or.inl stops
    · exact Or.inr ⟨marked, Or.inl edge⟩
    · exact Or.inr ⟨marked, Or.inr (spent.trans landed)⟩

theorem check_sound (sound : Sound manager) (here : manager.goroutines[index]? = some (.took address))
    (due : Nat) : Sound (go (become manager index .idle) (.deferred due address)) := by
  have narrow : Local manager manager address := .of_eq rfl rfl rfl rfl rfl rfl rfl
  have fits := sound.fits address
  obtain ⟨marked, unqueued, one⟩ := fits.alone here rfl
  obtain ⟨flyingNone, spentNone⟩ := fits.grounded here rfl
  have lowered := count_become Phase.held address narrow.goroutines here .idle
  have flying := count_become Phase.flying address narrow.goroutines here .idle
  have spent := count_become Phase.spent address narrow.goroutines here .idle
  have raised : count Phase.held (go (become manager index .idle) (.deferred due address)) address = _ :=
    count_go Phase.held address (.deferred due address)
  simp only [Phase.held, reduceCtorEq, if_true, if_false, one] at lowered raised
  simp only [Phase.flying, reduceCtorEq, if_false, flyingNone] at flying
  simp only [Phase.spent, reduceCtorEq, if_false, spentNone] at spent
  have landed : count Phase.spent (go (become manager index .idle) (.deferred due address)) address = 0 :=
    (count_go Phase.spent address (.deferred due address)).trans spent
  constructor
  · intro other
    by_cases same : other = address
    · rw [same]
      constructor
      · show manager.queue.count address + _ = (manager.active address).toNat
        rw [unqueued, raised, marked]
        simpa using lowered
      · have grounded := fits.flights
        rw [flyingNone, if_neg (show (Phase.took address).flying ≠ some address from nofun)] at grounded
        exact (count_go Phase.flying address (.deferred due address)).trans (flying.trans grounded)
      · exact fits.trailing
      · exact fun _ => Or.inr ⟨marked, Or.inr landed⟩
    · exact go_elsewhere (only other same)
        (become_elsewhere narrow here (only other same) nofun same (sound.fits other))
  · intro worker other member
    rcases List.mem_append.mp member with listed | same
    · rcases List.mem_or_eq_of_mem_set listed with earlier | same
      · exact sound.silent worker other earlier
      · contradiction
    · have same := List.mem_singleton.mp same
      contradiction

theorem mark_sound (sound : Sound manager)
    (here : manager.goroutines[index]? = some (.cleared address)) :
    Sound (become { manager with inFlight := Function.update manager.inFlight address true } index
      (.jittering address)) := by
  have narrow : Local manager
      { manager with inFlight := Function.update manager.inFlight address true } address :=
    ⟨rfl, rfl, fun _ _ => rfl, fun _ _ => rfl, update_apart manager.inFlight true, fun _ _ => rfl,
      fun _ _ => rfl⟩
  have fits := sound.fits address
  obtain ⟨marked, unqueued, -⟩ := fits.alone here rfl
  refine moved_sound sound narrow here only only nofun (held_fits fits narrow here rfl ?_ ?_ ?_ ?_)
  · simp [marked, unqueued, Phase.held]
  · simp [Phase.flying]
  · simp
  · exact fun _ => Or.inr ⟨marked, Or.inr nofun⟩

theorem fetch_sound (sound : Sound manager)
    (here : manager.goroutines[index]? = some (.jittering address)) :
    Sound (become { manager with history := .fetched address :: manager.history } index
      (.fetching address)) := by
  have narrow : Local manager { manager with history := .fetched address :: manager.history } address :=
    ⟨rfl, rfl, fun _ _ => rfl, fun _ _ => rfl, fun _ _ => rfl, fun _ _ => rfl,
      fun _ apart => if_neg (Ne.symm apart)⟩
  have fits := sound.fits address
  obtain ⟨marked, unqueued, -⟩ := fits.alone here rfl
  have flights := fits.flights
  rw [(fits.grounded here rfl).1] at flights
  refine moved_sound sound narrow here only only nofun
    (held_fits fits narrow here rfl ?_ flights fits.trailing ?_)
  · simp [marked, unqueued, Phase.held]
  · simp [pending]

theorem wake_sound (sound : Sound manager) (stops : manager.cancelled = true)
    (here : manager.goroutines[index]? = some (.jittering address)) :
    Sound (become manager index (.ended address)) := by
  have narrow : Local manager manager address := .of_eq rfl rfl rfl rfl rfl rfl rfl
  have fits := sound.fits address
  obtain ⟨marked, unqueued, -⟩ := fits.alone here rfl
  have flights := fits.flights
  rw [(fits.grounded here rfl).1] at flights
  refine moved_sound sound narrow here only only nofun
    (held_fits fits narrow here rfl ?_ flights fits.trailing fun _ => Or.inl stops)
  simp [marked, unqueued, Phase.held]

theorem finish_sound (sound : Sound manager)
    (here : manager.goroutines[index]? = some (.ended address)) : Sound (finish manager index address) := by
  have fits := sound.fits address
  obtain ⟨marked, unqueued, -⟩ := fits.alone here rfl
  rw [finish]
  split
  · have narrow : Local manager
        { manager with
          inFlight := Function.update manager.inFlight address false
          trailing := Function.update manager.trailing address false } address :=
      ⟨rfl, rfl, fun _ _ => rfl, fun _ _ => rfl, update_apart manager.inFlight false,
        update_apart manager.trailing false, fun _ _ => rfl⟩
    refine moved_sound sound narrow here only only nofun (held_fits fits narrow here rfl ?_ ?_ ?_ ?_)
    · simp [marked, unqueued, Phase.held]
    · simp [Phase.flying]
    · simp
    · exact fun _ => Or.inr ⟨marked, Or.inr nofun⟩
  · rename_i edge
    have narrow : Local manager
        { manager with
          inFlight := Function.update manager.inFlight address false
          active := Function.update manager.active address false } address :=
      ⟨rfl, rfl, fun _ _ => rfl, update_apart manager.active false, update_apart manager.inFlight false,
        fun _ _ => rfl, fun _ _ => rfl⟩
    have spent := (fits.grounded here rfl).2
    refine moved_sound sound narrow here only nofun nofun (held_fits fits narrow here rfl ?_ ?_ ?_ ?_)
    · simp [unqueued, Phase.held]
    · simp [Phase.flying]
    · exact fun set => absurd set edge
    · intro waits
      rcases fits.owed waits with stops | ⟨-, set | landed⟩
      · exact Or.inl stops
      · exact absurd set edge
      · rw [spent] at landed
        simp [Phase.spent] at landed

theorem rest_held (worker : Bool) : (rest worker).held = none := by
  cases worker <;> rfl

theorem rest_flying (worker : Bool) : (rest worker).flying = none := by
  cases worker <;> rfl

theorem rest_spent (worker : Bool) : (rest worker).spent = none := by
  cases worker <;> rfl

theorem rest_quiet (worker other : Bool) (address : Address) :
    rest worker ≠ .releasing other false address := by
  cases worker <;> exact nofun

theorem send_sound {worker : Bool} (sound : Sound manager)
    (here : manager.goroutines[index]? = some (.sending worker address)) :
    Sound (send manager index worker address) := by
  have fits := sound.fits address
  obtain ⟨marked, unqueued, -⟩ := fits.alone here rfl
  rw [send]
  split
  · have narrow : Local manager { manager with queue := manager.queue ++ [address] } address := by
      refine ⟨rfl, rfl, ?_, fun _ _ => rfl, fun _ _ => rfl, fun _ _ => rfl, fun _ _ => rfl⟩
      intro other apart
      simp [List.count_append, Ne.symm apart]
    have flights := fits.flights
    rw [(fits.grounded here rfl).1] at flights
    refine moved_sound sound narrow here only ?_ ?_ (held_fits fits narrow here rfl ?_ ?_ fits.trailing ?_)
    · intro other _
      rw [rest_held]
      exact nofun
    · exact fun other address same => absurd same (rest_quiet worker other address)
    · simp [List.count_append, marked, unqueued, rest_held]
    · rw [rest_flying]
      exact flights
    · exact fun _ => Or.inr ⟨marked, Or.inr (by rw [rest_spent]; exact nofun)⟩
  · exact passed_sound sound (.of_eq rfl rfl rfl rfl rfl rfl rfl) rfl rfl rfl rfl rfl here rfl rfl rfl nofun
      nofun

theorem release_sound {worker full : Bool} (sound : Sound manager)
    (here : manager.goroutines[index]? = some (.releasing worker full address)) :
    Sound (become (release manager full address) index (rest worker)) := by
  have fits := sound.fits address
  obtain ⟨-, unqueued, -⟩ := fits.alone here rfl
  have narrow : Local manager (release manager full address) address := by
    refine ⟨rfl, rfl, fun _ _ => rfl, update_apart manager.active false,
      update_apart manager.inFlight false, update_apart manager.trailing false, fun other apart => ?_⟩
    cases full
    · rfl
    · exact if_neg (Ne.symm apart)
  refine moved_sound sound narrow here only ?_ ?_ (held_fits fits narrow here rfl ?_ ?_ ?_ ?_)
  · intro other _
    rw [rest_held]
    exact nofun
  · exact fun other address same => absurd same (rest_quiet worker other address)
  · simp [release, unqueued, rest_held]
  · simp [release, rest_flying]
  · simp [release]
  · intro waits
    cases full
    · exact Or.inl (sound.silent worker address (List.mem_of_getElem? here))
    · simp [release, pending] at waits

theorem enqueue_narrow (manager : Manager) (address : Address) :
    Local manager (enqueue manager address).1 address := by
  rw [enqueue]
  split
  · split
    · exact ⟨rfl, rfl, fun _ _ => rfl, fun _ _ => rfl, fun _ _ => rfl, update_apart manager.trailing true,
        fun _ apart => if_neg (Ne.symm apart)⟩
    · exact ⟨rfl, rfl, fun _ _ => rfl, fun _ _ => rfl, fun _ _ => rfl, fun _ _ => rfl,
        fun _ apart => if_neg (Ne.symm apart)⟩
  · exact ⟨rfl, rfl, fun _ _ => rfl, update_apart manager.active true, fun _ _ => rfl, fun _ _ => rfl,
      fun _ apart => if_neg (Ne.symm apart)⟩

theorem enqueue_held (manager : Manager) (address : Address) :
    (enqueue manager address).2.held = if manager.active address then none else some address := by
  rw [enqueue]
  split
  · split
    · rfl
    · rfl
  · rfl

theorem enqueue_flying (manager : Manager) (address : Address) :
    (enqueue manager address).2.flying = none := by
  rw [enqueue]
  split
  · split
    · rfl
    · rfl
  · rfl

theorem enqueue_quiet (manager : Manager) (address other : Address) (worker : Bool) :
    (enqueue manager address).2 ≠ .releasing worker false other := by
  rw [enqueue]
  split
  · split
    · exact nofun
    · exact nofun
  · exact nofun

theorem enqueue_marks (manager : Manager) (address : Address) :
    (enqueue manager address).1.active address = true ∧
      (enqueue manager address).1.queue = manager.queue ∧
      (enqueue manager address).1.inFlight = manager.inFlight ∧
      (enqueue manager address).1.trailing address =
        (manager.trailing address || (manager.active address && manager.inFlight address)) := by
  rw [enqueue]
  split
  · rename_i marked
    split
    · rename_i flies
      exact ⟨marked, rfl, rfl, by simp [marked, flies]⟩
    · rename_i grounded
      exact ⟨marked, rfl, rfl, by simp [grounded]⟩
  · rename_i unmarked
    exact ⟨by simp, rfl, rfl, by simp [unmarked]⟩

theorem enqueue_sound (sound : Sound manager) (address : Address) {next : Manager}
    (same : next = { (enqueue manager address).1 with goroutines := next.goroutines })
    (counts : ∀ measure ∈ [Phase.held, Phase.flying, Phase.spent], ∀ other,
      count measure next other =
        count measure manager other + (if measure (enqueue manager address).2 = some other then 1 else 0))
    (silent : ∀ worker other, .releasing worker false other ∈ next.goroutines →
      manager.cancelled = true) : Sound next := by
  have narrow := enqueue_narrow manager address
  have cancelled : next.cancelled = manager.cancelled := by rw [same]; exact narrow.cancelled
  refine ⟨fun other => ?_, fun worker other member => cancelled.trans (silent worker other member)⟩
  have fits := sound.fits other
  by_cases apart : other = address
  · subst apart
    obtain ⟨marked, queue, inFlight, trailing⟩ := enqueue_marks manager other
    have held := counts Phase.held (by simp) other
    have flying := counts Phase.flying (by simp) other
    rw [enqueue_held] at held
    rw [enqueue_flying, if_neg nofun] at flying
    have grounded : manager.inFlight other = false → count Phase.spent next other = 0 := by
      intro grounded
      have flights := fits.flights
      have began := spent_le_flying next other
      rw [grounded, Bool.toNat_false] at flights
      omega
    have queue : next.queue = manager.queue := by rw [same]; exact queue
    have marked : next.active other = true := by rw [same]; exact marked
    have inFlight : next.inFlight other = manager.inFlight other := by rw [same]; exact congrFun inFlight other
    have trailing : next.trailing other =
        (manager.trailing other || (manager.active other && manager.inFlight other)) := by
      rw [same]
      exact trailing
    constructor
    · rw [queue, held, marked]
      cases active : manager.active other with
      | true =>
          have single := fits.single
          rw [active] at single
          simpa using single
      | false =>
          obtain ⟨unqueued, noneHeld, -⟩ := fits.unheld active
          simp [unqueued, noneHeld]
    · rw [inFlight]
      exact flying.trans fits.flights
    · rw [trailing, inFlight]
      intro edge
      rcases Bool.or_eq_true_iff.mp edge with set | both
      · exact fits.trailing set
      · exact (Bool.and_eq_true_iff.mp both).2
    · intro _
      refine Or.inr ⟨marked, ?_⟩
      rw [trailing]
      cases flies : manager.inFlight other with
      | false => exact Or.inr (grounded flies)
      | true =>
          left
          cases active : manager.active other with
          | true => simp
          | false =>
              have flights := fits.flights
              rw [flies, (fits.unheld active).2.2.1] at flights
              contradiction
  · have unheld : (enqueue manager address).2.held ≠ some other := by
      rw [enqueue_held]
      split
      · exact nofun
      · exact only other apart
    refine fits.of_same ?_ (fun measure listed => ?_) ?_ ?_ ?_ ?_ fun stops => cancelled.trans stops
    · rw [same]
      exact narrow.queue other apart
    · rw [counts measure listed other, if_neg (measure_ne unheld measure listed)]
      rfl
    · rw [same]
      exact narrow.active other apart
    · rw [same]
      exact narrow.inFlight other apart
    · rw [same]
      exact narrow.trailing other apart
    · rw [same]
      exact narrow.history other apart

end Steps

theorem start_sound (capacity concurrency : Nat) : Sound (start capacity concurrency) := by
  constructor
  · intro address
    constructor
    · simp [start, count, List.countP_replicate, Phase.held]
    · simp [start, count, List.countP_replicate, Phase.flying]
    · simp [start]
    · simp [start, pending]
  · intro worker address member
    simp [start] at member

section Runs

variable {manager : Manager} {index : Nat}

theorem spawn_sound (sound : Sound manager) (address : Address) :
    Sound (go (enqueue manager address).1 (enqueue manager address).2) := by
  have narrow := enqueue_narrow manager address
  refine enqueue_sound sound address rfl (fun measure _ other => ?_) fun worker other member => ?_
  · rw [count_go, count, narrow.goroutines]
    rfl
  · rcases List.mem_append.mp member with listed | same
    · rw [narrow.goroutines] at listed
      exact sound.silent worker other listed
    · exact absurd (List.mem_singleton.mp same).symm (enqueue_quiet manager address other worker)

theorem retry_sound {due : Nat} {address : Address} (sound : Sound manager)
    (here : manager.goroutines[index]? = some (.retrying due address)) :
    Sound (become (enqueue manager address).1 index (enqueue manager address).2) := by
  have narrow := enqueue_narrow manager address
  refine enqueue_sound sound address rfl (fun measure listed other => ?_) fun worker other member => ?_
  · have counted := count_become measure other narrow.goroutines here (enqueue manager address).2
    rw [if_neg (measure_ne (show (Phase.retrying due address).held ≠ some other from nofun) measure
      listed)] at counted
    exact counted
  · rcases List.mem_or_eq_of_mem_set member with listed | same
    · rw [narrow.goroutines] at listed
      exact sound.silent worker other listed
    · exact absurd same.symm (enqueue_quiet manager address other worker)

theorem process_get {phase : Phase} (address : Address) (outcome : Outcome)
    (here : manager.goroutines[index]? = some phase) :
    (process manager address outcome).goroutines[index]? = some phase := by
  cases outcome with
  | limited retryAfter =>
      rw [process, extendRateLimit]
      split
      · exact here
      · exact here
  | failed => exact here
  | settled => exact here
  | undecided =>
      rw [process, scheduleChase]
      split
      · exact here
      · exact (List.getElem?_append_left (List.getElem?_eq_some_iff.mp here).1).trans here

theorem process_sound (sound : Sound manager) (address : Address) (outcome : Outcome) :
    Sound (process manager address outcome) := by
  cases outcome with
  | limited retryAfter =>
      rw [process, extendRateLimit]
      split
      · exact sound.of_eq rfl (fun stops => stops) rfl rfl rfl rfl rfl
      · exact sound
  | failed => exact sound
  | settled => exact sound.of_eq rfl (fun stops => stops) rfl rfl rfl rfl rfl
  | undecided =>
      rw [process, scheduleChase]
      split
      · exact sound.of_eq rfl (fun stops => stops) rfl rfl rfl rfl rfl
      · exact go_sound (sound.of_eq rfl (fun stops => stops) rfl rfl rfl rfl rfl) rfl

theorem proceed_sound (sound : Sound manager) : Sound (proceed manager index) := by
  rw [proceed]
  split
  · rename_i here
    split
    · exact sound
    · rename_i address others stored
      exact take_sound sound here stored
  · rename_i address here
    rw [rateLimitPause]
    split
    · exact passed_sound sound (.of_eq rfl rfl rfl rfl rfl rfl rfl) rfl rfl rfl rfl rfl here rfl rfl rfl
        nofun nofun
    · rename_i limited
      rw [if_neg limited]
      exact check_sound sound here _
  · rename_i address here
    exact mark_sound sound here
  · rename_i address here
    exact fetch_sound sound here
  · rename_i address here
    exact finish_sound sound here
  · rename_i worker address here
    exact send_sound sound here
  · rename_i worker full address here
    exact release_sound sound here
  · rename_i due address here
    split
    · exact sound
    · split
      · rename_i stops
        exact passed_sound sound (.of_eq rfl rfl rfl rfl rfl rfl rfl) rfl rfl rfl rfl rfl here rfl rfl rfl
          nofun fun _ _ _ => stops
      · exact passed_sound sound (.of_eq rfl rfl rfl rfl rfl rfl rfl) rfl rfl rfl rfl rfl here rfl rfl rfl
          nofun nofun
  · rename_i due address here
    split
    · exact sound
    · split
      · exact unheld_sound sound here rfl rfl
      · exact retry_sound sound here
  · exact sound

theorem step_sound (action : Action) (sound : Sound manager) : Sound (step manager action) := by
  cases action with
  | enqueue address => exact spawn_sound sound address
  | proceed index => exact proceed_sound sound
  | stop index =>
      rw [step]
      split
      · rename_i here
        split
        · exact unheld_sound sound here rfl rfl
        · exact sound
      · exact sound
  | wake index =>
      rw [step]
      split
      · rename_i address here
        split
        · rename_i stops
          exact wake_sound sound stops here
        · exact sound
      · exact sound
  | respond index outcome =>
      rw [step]
      split
      · rename_i address here
        exact passed_sound (process_sound sound address outcome) (.of_eq rfl rfl rfl rfl rfl rfl rfl) rfl rfl
          rfl rfl rfl (process_get address outcome here) rfl rfl rfl (fun began => began) nofun
      · exact sound
  | tick seconds => exact sound.of_eq rfl (fun stops => stops) rfl rfl rfl rfl rfl
  | cancel => exact sound.of_eq rfl (fun _ => rfl) rfl rfl rfl rfl rfl

end Runs

end MulticaOS.Snapshots
