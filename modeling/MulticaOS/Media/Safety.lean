import MulticaOS.Lib.Lists
import MulticaOS.Media.Conduct

/-!
The media ledger over every run: a live object is never deleted, and no object is left without
an attachment or a row before its schedule is exhausted.
-/

namespace MulticaOS.Media

open ProgramLib

structure Follows (store : Store) (shared : Shared) (thread : Thread) (phase : Phase) : Prop where
  obeys : thread.program.Obeys (Moves store) Ends phase
  known : phase.Sound store shared
  consistent : Consistent store phase thread.transaction

def heldBy (tracked : List (Thread × Phase)) : List String := tracked.flatMap fun pair => pair.1.held

def leftBy (tracked : List (Thread × Phase)) : List String := tracked.flatMap fun pair => pair.2.left

structure Tracks (store : Store) (world : World) (tracked : List (Thread × Phase)) : Prop where
  threads : world.threads = tracked.map Prod.fst
  follows : ∀ pair ∈ tracked, Follows store world.shared pair.1 pair.2
  orphans : ∀ orphan ∈ world.orphans, orphan.Sound store
  late : ∀ statement ∈ world.late, statement.Sound store world.shared
  sound : Sound store world.shared (heldBy tracked ++ world.orphans.flatMap BindTransaction.held)
    (leftBy tracked ++ world.late.flatMap Call.records) (world.attempts.map (Attempt.storageKey store))

/-- No object that an attachment refers to is deleted or claimed for it, and an object without an attachment
or a row has outlived its whole schedule of deletes. -/
structure Safe (store : Store) (world : World) : Prop where
  live : ∀ key, .deleted key ∈ world.shared.history → ¬ world.shared.attached store key
  unclaimed : ∀ key, .claimed key ∈ world.shared.history → ¬ world.shared.attached store key
  covered : ∀ key ∈ world.shared.objects,
    world.shared.attached store key ∨ (∃ row, world.shared.ledger key = some row) ∨ world.shared.Exhausted key

section Worlds

variable {store : Store} {world : World} {shared : Shared} {tracked front back : List (Thread × Phase)}

theorem held_eq (thread : Thread) : thread.held = heldOf thread.transaction := by
  unfold Thread.held heldOf
  cases thread.transaction with
  | none => rfl
  | some opened => rfl

@[simp] theorem heldBy_append : heldBy (front ++ back) = heldBy front ++ heldBy back := List.flatMap_append

@[simp] theorem heldBy_cons (pair : Thread × Phase) : heldBy (pair :: back) = heldOf pair.1.transaction ++ heldBy back := by
  simp [heldBy, held_eq]

@[simp] theorem leftBy_append : leftBy (front ++ back) = leftBy front ++ leftBy back := List.flatMap_append

@[simp] theorem leftBy_cons (pair : Thread × Phase) : leftBy (pair :: back) = pair.2.left ++ leftBy back := by
  simp [leftBy]

theorem heldBy_threads (tracked : List (Thread × Phase)) :
    (tracked.map Prod.fst).flatMap Thread.held = heldBy tracked := by
  rw [List.flatMap_map]
  rfl

theorem Follows.grown {thread : Thread} {phase : Phase} (follows : Follows store world.shared thread phase)
    (grows : Grows store world.shared shared) : Follows store shared thread phase :=
  ⟨follows.obeys, follows.known.grown grows, follows.consistent⟩

theorem Tracks.safe (tracks : Tracks store world tracked) : Safe store world := by
  refine ⟨?_, ?_, ?_⟩
  · intro key deleted
    cases tracks.sound.standing key with
    | fresh fresh => exact fresh.unattached
    | pending _ _ _ _ unattached => exact unattached
    | bound _ _ untouched => exact absurd deleted untouched.undeleted
    | condemned _ unattached => exact unattached
  · exact fun key claimed => ((tracks.sound.standing key).of_claimed claimed).1
  · intro key stored
    cases tracks.sound.standing key with
    | fresh _ _ absent => exact absurd stored absent.1
    | pending row found => exact Or.inr (Or.inl ⟨row, found⟩)
    | bound _ attached => exact Or.inl attached
    | condemned _ _ gone =>
        cases found : world.shared.ledger key with
        | none => exact Or.inr (Or.inr (gone found))
        | some row => exact Or.inr (Or.inl ⟨row, rfl⟩)

theorem Tracks.at_index {index : Nat} {thread : Thread} (tracks : Tracks store world tracked)
    (found : world.threads[index]? = some thread) :
    ∃ front phase back, tracked = front ++ (thread, phase) :: back ∧
      world.locked index = heldBy (front ++ back) ++ world.orphans.flatMap BindTransaction.held ∧
      ∀ other later, world.threads.set index other = (front ++ (other, later) :: back).map Prod.fst := by
  have listed := found
  rw [tracks.threads, List.getElem?_map, Option.map_eq_some_iff] at listed
  obtain ⟨⟨same, phase⟩, here, rfl⟩ := listed
  obtain ⟨front, back, split, position⟩ := ListLib.split_at_index here
  have place : index = (front.map Prod.fst).length := by rw [List.length_map, position]
  refine ⟨front, phase, back, split, ?_, ?_⟩
  · unfold World.locked
    rw [tracks.threads, split, List.map_append, List.map_cons, place, ListLib.eraseIdx_split, ← List.map_append,
      heldBy_threads]
  · intro other later
    rw [tracks.threads, split, List.map_append, List.map_cons, place, ListLib.set_split, List.map_append,
      List.map_cons]

theorem Tracks.shift {late : List Call} {orphans : List BindTransaction} (tracks : Tracks store world tracked)
    (kept : Sound store shared (heldBy tracked ++ orphans.flatMap BindTransaction.held)
      (leftBy tracked ++ late.flatMap Call.records) (world.attempts.map (Attempt.storageKey store)))
    (grows : Grows store world.shared shared) (fewer : orphans ⊆ world.orphans) (less : late ⊆ world.late) :
    Tracks store { world with shared := shared, orphans := orphans, late := late } tracked :=
  ⟨tracks.threads, fun pair member => (tracks.follows pair member).grown grows,
    fun orphan member => tracks.orphans orphan (fewer member),
    fun statement member => (tracks.late statement (less member)).grown grows, kept⟩

theorem serve_tracks (tracks : Tracks store world tracked) (index : Nat)
    (environment : (request : Call) → Answer request) (fault : Fault) (started : Nat) :
    ∃ next, Tracks store (world.serve index environment fault started) next := by
  unfold World.serve
  cases found : world.threads[index]? with
  | none => exact ⟨tracked, tracks⟩
  | some thread =>
      obtain ⟨front, phase, back, split, locked, moved⟩ := tracks.at_index found
      have follows := tracks.follows (thread, phase) (by simp [split])
      have books := tracks.sound
      rw [split] at books
      obtain ⟨program, transaction⟩ := thread
      cases program with
      | done result => exact ⟨tracked, tracks⟩
      | call request next =>
          dsimp only
          split
          · exact ⟨tracked, tracks⟩
          · rename_i unblocked
            have free : fault.happens = true → ∀ key ∈ request.rows, key ∉ world.locked index := by
              intro happens key row blocked
              exact unblocked (by simpa [happens] using ⟨key, row, blocked⟩)
            obtain ⟨later, moves, rest⟩ := follows.obeys (Media.serve environment fault (min started world.clock)
              (world.locked index) world.shared transaction request).answer
            have own : Sound store world.shared (heldOf transaction ++ world.locked index)
                (phase.left ++ (leftBy (front ++ back) ++ world.late.flatMap Call.records))
                (world.attempts.map (Attempt.storageKey store)) := by
              refine books.fewer ?_ ?_
              · intro key
                simp [locked]
                omega
              · intro key
                simp
                omega
            have kept := serve_kept moves follows.consistent follows.known free own
            refine ⟨front ++ (_, later) :: back, moved _ _, ?_, ?_, ?_, ?_⟩
            · intro pair member
              have old : ∀ other ∈ front ++ back, Follows store world.shared other.1 other.2 := by
                intro other listed
                refine tracks.follows other ?_
                rw [split]
                simp only [List.mem_append, List.mem_cons] at listed ⊢
                exact listed.imp_right Or.inr
              rcases List.mem_append.mp member with before | after
              · exact (old pair (List.mem_append_left _ before)).grown kept.grows
              · rcases List.mem_cons.mp after with rfl | after
                · exact ⟨rest, kept.phase, kept.consistent⟩
                · exact (old pair (List.mem_append_right _ after)).grown kept.grows
            · intro orphan member
              rcases List.mem_append.mp member with new | old
              · exact kept.orphans orphan new
              · exact tracks.orphans orphan old
            · intro statement member
              rcases List.mem_append.mp member with new | old
              · exact kept.late statement new
              · exact (tracks.late statement old).grown kept.grows
            · refine kept.sound.fewer ?_ ?_
              · intro key
                simp [locked]
                omega
              · intro key
                simp
                omega

theorem commits_sound {thread : Thread} {phase : Phase} (follows : Follows store shared thread phase)
    {opened : BindTransaction} (mine : thread.transaction = some opened) (commits : thread.commits = true) :
    Covers store opened.held opened.attachments := by
  obtain ⟨program, transaction⟩ := thread
  have obeys := follows.obeys
  have consistent := follows.consistent
  cases program with
  | done result => cases commits
  | call request next =>
      cases request with
      | commit =>
          obtain ⟨later, moves, -⟩ := obeys CommitAnswer.committed
          cases moves with
          | commit claimed =>
              obtain ⟨attachments, same, attaching⟩ := consistent
              obtain rfl := Option.some.inj (mine.symm.trans same)
              exact attaching.done
      | _ => cases commits

theorem crash_tracks (tracks : Tracks store world tracked) (index : Nat) (sent : Bool) :
    ∃ next, Tracks store (world.crash index sent) next := by
  unfold World.crash
  cases found : world.threads[index]? with
  | none => exact ⟨tracked, tracks⟩
  | some thread =>
      obtain ⟨front, phase, back, split, -, moved⟩ := tracks.at_index found
      have follows := tracks.follows (thread, phase) (by simp [split])
      have books := tracks.sound
      rw [split] at books
      refine ⟨front ++ (⟨.done (), none⟩, .closed) :: back, moved _ _, ?_, ?_, tracks.late, ?_⟩
      · intro pair member
        rcases List.mem_append.mp member with before | after
        · exact tracks.follows pair (by simp [split, before])
        · rcases List.mem_cons.mp after with rfl | after
          · exact ⟨trivial, trivial, rfl⟩
          · exact tracks.follows pair (by simp [split, after])
      · intro orphan member
        rcases List.mem_append.mp member with new | old
        · obtain ⟨opened, mine, rfl⟩ := List.mem_map.mp new
          intro committing
          have commits := (Bool.and_eq_true_iff.mp committing).2
          have own : thread.transaction = some opened := by simpa using mine
          have covers : Covers store opened.held opened.attachments := commits_sound follows own commits
          exact covers
        · exact tracks.orphans orphan old
      · refine books.fewer ?_ ?_
        · intro key
          cases held : thread.transaction with
          | none => simp [heldOf, held]
          | some opened =>
              simp [heldOf, held]
              omega
        · intro key
          simp [Phase.left]

theorem settle_tracks (tracks : Tracks store world tracked) (index : Nat) (commits : Bool) :
    Tracks store (world.settle index commits) tracked := by
  unfold World.settle
  cases found : world.orphans[index]? with
  | none => exact tracks
  | some orphan =>
      obtain ⟨front, back, split, here⟩ := ListLib.split_at_index found
      have remaining : world.orphans.eraseIdx index = front ++ back := by
        rw [split, ← here, ListLib.eraseIdx_split]
      have books := tracks.sound
      rw [split] at books
      have fewer : front ++ back ⊆ world.orphans := by
        intro other member
        rw [split]
        rcases List.mem_append.mp member with before | after
        · exact List.mem_append_left _ before
        · exact List.mem_append_right _ (List.mem_cons_of_mem _ after)
      dsimp only
      rw [remaining]
      by_cases committed : (commits && orphan.committing) = true
      · rw [if_pos committed]
        have covers := tracks.orphans orphan (List.mem_of_getElem? found) (Bool.and_eq_true_iff.mp committed).2
        have own : Sound store world.shared
            (orphan.held ++ (heldBy tracked ++ (front ++ back).flatMap BindTransaction.held))
            (leftBy tracked ++ world.late.flatMap Call.records)
            (world.attempts.map (Attempt.storageKey store)) := by
          refine books.fewer ?_ fun _ => Nat.le_refl _
          intro key
          simp
          omega
        obtain ⟨kept, grows⟩ := land_sound covers own
        exact tracks.shift kept grows fewer fun _ member => member
      · rw [if_neg committed]
        refine tracks.shift (books.fewer ?_ fun _ => Nat.le_refl _) Grows.refl fewer fun _ member => member
        intro key
        simp

theorem finish_tracks (tracks : Tracks store world tracked) (index started : Nat) :
    Tracks store (world.finish index started) tracked := by
  unfold World.finish
  cases found : world.late[index]? with
  | none => exact tracks
  | some statement =>
      obtain ⟨front, back, split, here⟩ := ListLib.split_at_index found
      have remaining : world.late.eraseIdx index = front ++ back := by rw [split, ← here, ListLib.eraseIdx_split]
      have books := tracks.sound
      rw [split] at books
      dsimp only
      split
      · exact tracks
      · have own : Sound store world.shared (heldBy tracked ++ world.orphans.flatMap BindTransaction.held)
            (statement.records ++ (leftBy tracked ++ (front ++ back).flatMap Call.records))
            (world.attempts.map (Attempt.storageKey store)) := by
          refine books.fewer (fun _ => Nat.le_refl _) ?_
          intro key
          simp
          omega
        obtain ⟨kept, grows⟩ := execute_sound (min started world.clock)
          (tracks.late statement (List.mem_of_getElem? found)) own
        rw [remaining]
        refine tracks.shift kept grows (fun _ member => member) ?_
        intro other member
        rw [split]
        rcases List.mem_append.mp member with before | after
        · exact List.mem_append_left _ before
        · exact List.mem_append_right _ (List.mem_cons_of_mem _ after)

theorem materialise_tracks (tracks : Tracks store world tracked) (index : Nat) :
    Tracks store (world.materialise index) tracked := by
  unfold World.materialise
  cases found : world.shared.puts[index]? with
  | none => exact tracks
  | some key =>
      have asked := List.mem_of_getElem? found
      have recorded := (tracks.sound.standing key).recorded (Or.inr asked)
      have stored : ∀ other, other ∈ key :: world.shared.objects ∨ other ∈ world.shared.puts.eraseIdx index →
          other = key ∨ other ∈ world.shared.objects ∨ other ∈ world.shared.puts := by
        rintro other (stored | waiting)
        · exact (List.mem_cons.mp stored).imp_right Or.inl
        · exact Or.inr (Or.inr (List.mem_of_mem_eraseIdx waiting))
      obtain ⟨kept, grows⟩ := @put_sound _ _
        { world.shared.put key with puts := world.shared.puts.eraseIdx index } _ _ _ _ tracks.sound recorded
        ⟨rfl, rfl, rfl, rfl⟩ stored
      exact tracks.shift kept grows (fun _ member => member) fun _ member => member

theorem expunge_tracks (tracks : Tracks store world tracked) (index : Nat) :
    Tracks store (world.expunge index) tracked := by
  unfold World.expunge
  cases found : world.shared.deletes[index]? with
  | none => exact tracks
  | some key =>
      have asked := List.mem_of_getElem? found
      have claimed : .claimed key ∈ world.shared.history := by
        cases tracks.sound.standing key with
        | fresh _ untouched => exact absurd asked untouched.unasked
        | pending _ _ _ _ _ untouched => exact absurd asked untouched.unasked
        | bound _ _ untouched => exact absurd asked untouched.unasked
        | condemned claimed => exact claimed
      obtain ⟨kept, grows⟩ := @remove_sound _ _
        { world.shared.remove key with deletes := world.shared.deletes.eraseIdx index } _ _ _ _ tracks.sound
        claimed ⟨rfl, rfl, rfl⟩ (Or.inr rfl) (fun _ _ member => List.mem_of_mem_eraseIdx member)
        (fun _ stored => (List.mem_filter.mp stored).1)
      exact tracks.shift kept grows (fun _ member => member) fun _ member => member

theorem attempts_keys (store : Store) (ingest : Ingest) :
    ingest.attempts.map (Attempt.storageKey store) = ingest.resources.map (ingest.storageKey store) := by
  rw [Ingest.attempts, List.map_map]
  rfl

theorem ingest_tracks (tracks : Tracks store world tracked) (ingest : Ingest)
    (single : ((ingest.attempts ++ world.attempts).map (Attempt.storageKey store)).Nodup) :
    ∃ next, Tracks store (step store world (.ingest ingest)) next := by
  rw [List.map_append, attempts_keys] at single
  obtain ⟨own, -, apart⟩ := List.nodup_append.mp single
  have books := tracks.sound
  refine ⟨tracked ++ [(⟨resolveAndBindMedia store ingest, none⟩,
    .resolving (ingest.resources.map (ingest.storageKey store)) [])], ?_, ?_, tracks.orphans, tracks.late, ?_⟩
  · simp [step, tracks.threads]
  · intro pair member
    rcases List.mem_append.mp member with old | new
    · exact tracks.follows pair old
    · obtain rfl := List.mem_singleton.mp new
      exact ⟨resolveAndBindMedia_obeys, by simp [Phase.Sound], rfl⟩
  · have begun : ∀ key, key ∈ ingest.resources.map (ingest.storageKey store) →
        key ∉ world.attempts.map (Attempt.storageKey store) :=
      fun key mine old => apart key mine key old rfl
    have nothing : heldBy [((⟨resolveAndBindMedia store ingest, none⟩ : Thread),
        Phase.resolving (ingest.resources.map (ingest.storageKey store)) [])] = [] := rfl
    have all : leftBy [((⟨resolveAndBindMedia store ingest, none⟩ : Thread),
        Phase.resolving (ingest.resources.map (ingest.storageKey store)) [])] =
        ingest.resources.map (ingest.storageKey store) := List.append_nil _
    simp only [step, heldBy_append, leftBy_append, nothing, all, List.append_nil, List.map_append, attempts_keys]
    refine ⟨books.standing, books.holds, books.single, ?_, ?_, ?_, ?_⟩
    · intro key member
      simp only [List.mem_append] at member
      rcases member with (old | new) | late
      · exact books.awaits key (List.mem_append_left _ old)
      · exact books.unused key (begun key new)
      · exact books.awaits key (List.mem_append_right _ late)
    · have apartLeft := List.nodup_append.mp books.apart
      refine List.nodup_append.mpr ⟨List.nodup_append.mpr ⟨apartLeft.1, own, ?_⟩, apartLeft.2.1, ?_⟩
      · rintro key old other new rfl
        exact begun key new (books.begun (List.mem_append_left _ old))
      · rintro key listed other late rfl
        rcases List.mem_append.mp listed with old | new
        · exact apartLeft.2.2 key old key late rfl
        · exact begun key new (books.begun (List.mem_append_right _ late))
    · exact fun key unused => books.unused key fun old => unused (List.mem_append_right _ old)
    · intro key member
      simp only [List.mem_append] at member ⊢
      rcases member with (old | new) | late
      · exact Or.inr (books.begun (List.mem_append_left _ old))
      · exact Or.inl new
      · exact Or.inr (books.begun (List.mem_append_right _ late))

theorem sweep_tracks (tracks : Tracks store world tracked) (leaseToken : Nat) :
    ∃ next, Tracks store (step store world (.sweep leaseToken)) next := by
  refine ⟨tracked ++ [(⟨runOnce leaseToken, none⟩, .sweeping)], ?_, ?_, tracks.orphans, tracks.late, ?_⟩
  · simp [step, tracks.threads]
  · intro pair member
    rcases List.mem_append.mp member with old | new
    · exact tracks.follows pair old
    · obtain rfl := List.mem_singleton.mp new
      exact ⟨runOnce_obeys, trivial, rfl⟩
  · exact tracks.sound.fewer (by simp [step, Thread.held, heldBy]) (by simp [step, Phase.left, leftBy])

theorem step_tracks (tracks : Tracks store world tracked) (action : Action)
    (single : ((step store world action).attempts.map (Attempt.storageKey store)).Nodup) :
    ∃ next, Tracks store (step store world action) next := by
  cases action with
  | ingest ingest => exact ingest_tracks tracks ingest single
  | sweep leaseToken => exact sweep_tracks tracks leaseToken
  | serve index environment fault started => exact serve_tracks tracks index environment fault started
  | crash index sent => exact crash_tracks tracks index sent
  | settle index commits => exact ⟨tracked, settle_tracks tracks index commits⟩
  | finish index started => exact ⟨tracked, finish_tracks tracks index started⟩
  | materialise index => exact ⟨tracked, materialise_tracks tracks index⟩
  | expunge index => exact ⟨tracked, expunge_tracks tracks index⟩
  | wait time => exact ⟨tracked, tracks.threads, tracks.follows, tracks.orphans, tracks.late, tracks.sound⟩

theorem initial_tracks : Tracks store initial [] :=
  ⟨rfl, by simp, by simp [initial], by simp [initial],
    ⟨fun key => .fresh ⟨rfl, by simp [initial, Shared.attached], by simp [initial]⟩
        ⟨by simp [initial], by simp [initial], by simp [initial]⟩ ⟨by simp [initial], by simp [initial]⟩,
      by simp [heldBy, initial], List.nodup_nil, by simp [leftBy, initial], List.nodup_nil,
      fun key _ => ⟨rfl, by simp [initial, Shared.attached], by simp [initial]⟩, by simp [leftBy, initial]⟩⟩

theorem step_attempts (action : Action) : ∃ begun, (step store world action).attempts = begun ++ world.attempts := by
  cases action with
  | ingest ingest => exact ⟨ingest.attempts, rfl⟩
  | serve index environment fault started =>
      refine ⟨[], ?_⟩
      simp only [step, World.serve, List.nil_append]
      split
      · rfl
      · split
        · rfl
        · split <;> rfl
  | crash index sent =>
      refine ⟨[], ?_⟩
      simp only [step, World.crash, List.nil_append]
      split <;> rfl
  | settle index commits =>
      refine ⟨[], ?_⟩
      simp only [step, World.settle, List.nil_append]
      split <;> rfl
  | finish index started =>
      refine ⟨[], ?_⟩
      simp only [step, World.finish, List.nil_append]
      split
      · rfl
      · split <;> rfl
  | materialise index =>
      refine ⟨[], ?_⟩
      simp only [step, World.materialise, List.nil_append]
      split <;> rfl
  | expunge index =>
      refine ⟨[], ?_⟩
      simp only [step, World.expunge, List.nil_append]
      split <;> rfl
  | sweep leaseToken => exact ⟨[], rfl⟩
  | wait time => exact ⟨[], rfl⟩

theorem run_attempts (actions : List Action) :
    ∃ begun, (runFrom store world actions).attempts = begun ++ world.attempts := by
  induction actions generalizing world with
  | nil => exact ⟨[], rfl⟩
  | cons action rest ih =>
      obtain ⟨later, ran⟩ := @ih (step store world action)
      obtain ⟨first, stepped⟩ := @step_attempts store world action
      exact ⟨later ++ first, by rw [List.append_assoc, ← stepped]; exact ran⟩

theorem run_tracks (actions : List Action) (tracks : Tracks store world tracked)
    (single : ((runFrom store world actions).attempts.map (Attempt.storageKey store)).Nodup) :
    ∃ next, Tracks store (runFrom store world actions) next := by
  induction actions generalizing world tracked with
  | nil => exact ⟨tracked, tracks⟩
  | cons action rest ih =>
      obtain ⟨begun, ran⟩ := @run_attempts store (step store world action) rest
      have now : ((step store world action).attempts.map (Attempt.storageKey store)).Nodup := by
        have all : ((begun ++ (step store world action).attempts).map (Attempt.storageKey store)).Nodup :=
          ran ▸ single
        rw [List.map_append] at all
        exact (List.nodup_append.mp all).2.1
      obtain ⟨next, kept⟩ := step_tracks tracks action now
      exact ih kept single

/-- With one upload attempt for each resource of a chat message, and a key of its own for each, every run
is safe. -/
theorem run_safe (store : Store) (actions : List Action)
    (oneAttempt : ((runFrom store initial actions).attempts.map Attempt.subject).Nodup)
    (ownKeys : ∀ attempt ∈ (runFrom store initial actions).attempts,
      ∀ other ∈ (runFrom store initial actions).attempts,
        attempt.storageKey store = other.storageKey store → attempt.subject = other.subject) :
    Safe store (runFrom store initial actions) := by
  have single : ((runFrom store initial actions).attempts.map (Attempt.storageKey store)).Nodup := by
    refine List.pairwise_map.mpr ?_
    refine (List.pairwise_map.mp oneAttempt).imp_of_mem ?_
    exact fun mine others different same => different (ownKeys _ mine _ others same)
  obtain ⟨tracked, tracks⟩ := run_tracks actions initial_tracks single
  exact tracks.safe

end Worlds

def redelivered (chatMessageID : String) : Ingest :=
  ⟨"acme", "bot", chatMessageID, [⟨"message", "image", "photo"⟩]⟩

def plainStore : Store := ⟨"https://cdn/", fun text => text⟩

def redeliveredKey (chatMessageID : String) : String :=
  (redelivered chatMessageID).storageKey plainStore ⟨"message", "image", "photo"⟩

def willing : (request : Call) → Answer request
  | .expired => false
  | .record _ => .ok true
  | .download _ => .ok ()
  | .upload _ => .ok ()
  | .begin => .ok ()
  | .claimForBind keys _ => .ok keys
  | .createAttachment _ _ => .ok ()
  | .linkAttachments _ => .ok ()
  | .clearMediaPending _ => .ok ()
  | .commit => .committed
  | .rollback => ()
  | .claimForReconcile _ => .ok [⟨redeliveredKey "second", ⟨"", "", "", .pending, none, none, 0, 0, 0, 0⟩⟩]
  | .renew _ _ _ => .ok 1
  | .isReferenced _ _ _ => .ok false
  | .deleteObject _ => .ok ()
  | .tombstone _ _ _ _ _ => ()
  | .release _ _ _ _ => ()
  | .clear _ _ _ => ()

def serves (index count : Nat) : List Action :=
  List.replicate count (.serve index willing .none (100 * minute))

def abandonedRun : List Action :=
  .ingest (redelivered "first") :: serves 0 11 ++
    .ingest (redelivered "second") :: serves 1 3 ++
    [.serve 1 willing (.pending "timeout") 0, .crash 1 false, .wait (16 * minute), .sweep 7] ++
    serves 2 5 ++ [.materialise 0]

theorem run_safe_abandoned :
    (runFrom plainStore initial abandonedRun).shared.objects =
        [redeliveredKey "second", redeliveredKey "first"] ∧
      (runFrom plainStore initial abandonedRun).shared.attachments =
        [⟨"acme", some "first", plainStore.objectURL (redeliveredKey "first")⟩] ∧
      Safe plainStore (runFrom plainStore initial abandonedRun) :=
  ⟨by decide +kernel, by decide +kernel,
    run_safe plainStore abandonedRun (by decide +kernel) (by decide +kernel)⟩

end MulticaOS.Media
