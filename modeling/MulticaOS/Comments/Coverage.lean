import MulticaOS.Comments.Dispatch

/-!
When a success-shaped outcome is backed by coverage: in every interleaving in which no call
defers to tasks that are all younger than its comment.
-/

namespace MulticaOS.Comments

open TaskQueue

/-- A call that defers because its pair is active finds a task older than its comment. -/
def timely (pair : Pair) (system : System) : Event → Bool
  | .advance index _ _ =>
      match system.threads[index]? with
      | some (.calling comment _ (.active _) _ _) =>
          !hasActiveTaskForIssueAndAgent system.db pair.issue pair.agent ||
            system.db.tasks.any fun task =>
              pair.owns task && (task.status = .queued || task.status.active) &&
                system.comments.any fun posted =>
                  posted.id = comment && task.createdAt < posted.createdAt
      | _ => true
  | _ => true

def SuccessCovered (pair : Pair) (system : System) (event : Event) : Prop :=
  ∀ comment outcome,
    (systemStep pair system event).reported = system.reported ++ [(comment, outcome)] →
      outcome.success = true →
        covered pair (systemStep pair system event).comments (systemStep pair system event).db
          comment = true

section Simulation

variable {pair : Pair} {db : Db} {trigger : CommentTrigger} {comment : Id} {resolution : Resolution}

def Simulated (db next : Db) : Prop := next = db ∨ ∃ action, next = step db action

theorem Simulated.wellFormed {next : Db} (simulated : Simulated db next) (wellFormed : WellFormed db) :
    WellFormed next := by
  rcases simulated with rfl | ⟨action, rfl⟩
  · exact wellFormed
  · exact wellFormed.step action

theorem merge_simulated :
    Simulated db (mergeCommentIntoPendingTask pair db comment resolution).1 := by
  cases resolution with
  | attributionFailClosed => exact Or.inl rfl
  | failed => exact Or.inl rfl
  | resolved data =>
      simp only [mergeCommentIntoPendingTask]
      split
      · rename_i next row merging
        exact Or.inr ⟨.mergeCommentIntoPendingTask _ _ _ _, by rw [step, merging, settle]⟩
      · exact Or.inl rfl
      · exact Or.inl rfl

theorem enqueue_simulated {next : Db}
    (done : enqueueSingleCommentTrigger pair db trigger comment resolution = .ok next) :
    Simulated db next := by
  cases resolution with
  | attributionFailClosed => contradiction
  | failed => contradiction
  | resolved data =>
      simp only [enqueueSingleCommentTrigger] at done
      split at done
      · rename_i stored row inserting
        rw [Except.ok.injEq] at done
        subst done
        exact Or.inr ⟨.createAgentTask _ _, by rw [step, inserting, settle]⟩
      · split at done <;> contradiction
      · contradiction

theorem register_simulated {next : Db} {headSha : Option String} {row : Task}
    (done : registerPlannedCommentForActiveTask db pair.issue pair.agent headSha comment =
      .ok (next, row)) : Simulated db next :=
  Or.inr ⟨.registerPlannedCommentForActiveTask _ _ _ _, by rw [step, done, settle]⟩

theorem callStep_simulated (pc : Pc) :
    Simulated db (callStep pair db trigger comment resolution pc).1 := by
  have merged := @merge_simulated pair db comment resolution
  cases pc with
  | flag =>
      simp only [callStep]
      split <;> exact Or.inl rfl
  | merge attempt lostRace =>
      simp only [callStep]
      split <;> rename_i merging <;> rw [merging] at merged
      · exact merged
      · exact merged
      · exact merged
      · split <;> exact merged
  | active attempt =>
      simp only [callStep]
      split <;> exact Or.inl rfl
  | register attempt =>
      simp only [callStep]
      split
      · rename_i registering
        exact register_simulated registering
      · exact Or.inl rfl
      · exact Or.inl rfl
  | enqueue attempt =>
      simp only [callStep]
      split
      · rename_i enqueueing
        exact enqueue_simulated enqueueing
      · split <;> exact Or.inl rfl
      · exact Or.inl rfl
      · exact Or.inl rfl
  | handOffRegister attempt =>
      simp only [callStep]
      split
      · rename_i registering
        exact register_simulated registering
      · exact Or.inl rfl
  | handOffMerge attempt =>
      simp only [callStep]
      split <;> rename_i merging <;> rw [merging] at merged
      · exact merged
      · exact merged
  | handOffEnqueue attempt =>
      simp only [callStep]
      split
      · rename_i enqueueing
        exact enqueue_simulated enqueueing
      · split <;> exact Or.inl rfl
      · exact Or.inl rfl

theorem threadStep_simulated {comments : List Comment} (computed : CommentTrigger) (thread : Thread) :
    Simulated db (threadStep pair comments db computed resolution thread).1 := by
  cases thread with
  | listing completed => exact Or.inl rfl
  | calling comment stored pc replay todo =>
      have simulated := @callStep_simulated pair db (pc.routed computed stored) comment resolution pc
      simp only [threadStep]
      split <;> rename_i stepped <;> rw [stepped] at simulated <;> exact simulated

theorem systemStep_simulated (system : System) (event : Event) :
    Simulated system.db (systemStep pair system event).db := by
  cases event with
  | table action => exact Or.inr ⟨action, rfl⟩
  | post => exact Or.inl rfl
  | advance index computed resolution =>
      simp only [systemStep]
      split
      · exact Or.inl rfl
      · exact threadStep_simulated computed _

end Simulation

def Reached (limits : Id → Nat) (db : Db) : Prop :=
  ∃ actions, db = RunLib.run step (initial limits) actions

theorem Reached.wellFormed {limits : Id → Nat} {db : Db} (reached : Reached limits db) :
    WellFormed db := by
  obtain ⟨actions, rfl⟩ := reached
  exact RunLib.run_invariant (initial_wellFormed limits)
    (fun _ action sound => sound.step action) actions

theorem Reached.simulated {limits : Id → Nat} {db next : Db} (reached : Reached limits db)
    (simulated : Simulated db next) : Reached limits next := by
  obtain ⟨actions, rfl⟩ := reached
  rcases simulated with rfl | ⟨action, rfl⟩
  · exact ⟨actions, rfl⟩
  · refine ⟨actions ++ [action], ?_⟩
    rw [RunLib.run_append, RunLib.run_cons, RunLib.run_nil]

theorem planned_of_trigger {task : Task} {comment : Id}
    (triggered : task.triggerCommentId = some comment) :
    comment ∈ task.planned := by
  simp [Task.planned, triggered]

theorem live_of_active {status : Status} (active : status.active = true) : status.terminal = false := by
  cases status <;> simp [Status.active, Status.terminal] at active ⊢

theorem not_success_of_blocked {db next : Db} {reason : BlockReason} {outcome : Outcome}
    (returned : (db, Progress.returned (.blocked reason)) = (next, .returned outcome)) :
    outcome.success ≠ true := by
  simp only [Prod.mk.injEq, Progress.returned.injEq] at returned
  rw [← returned.2]
  exact Bool.false_ne_true

theorem callStep_success {pair : Pair} {db next : Db} {trigger : CommentTrigger} {comment : Id}
    {resolution : Resolution} {pc : Pc} {outcome : Outcome} (unique : (db.tasks.map Task.id).Nodup)
    (returned : callStep pair db trigger comment resolution pc = (next, .returned outcome))
    (success : outcome.success = true) :
    (∃ attempt, pc = .active attempt ∧ next = db ∧
      hasActiveTaskForIssueAndAgent db pair.issue pair.agent = true) ∨
    ∃ row ∈ next.tasks, pair.owns row = true ∧ row.status.terminal = false ∧ comment ∈ row.planned := by
  cases pc with
  | flag =>
      simp only [callStep] at returned
      split at returned <;> simp at returned
  | merge attempt lostRace =>
      simp only [callStep] at returned
      split at returned
      · rename_i merging
        simp only [Prod.mk.injEq] at returned
        obtain ⟨rfl, -⟩ := returned
        obtain ⟨row, member, owned, queued, triggered⟩ := merge_succeeded unique merging
        exact Or.inr ⟨row, member, owned, by rw [queued]; rfl, planned_of_trigger triggered⟩
      · exact absurd success (not_success_of_blocked returned)
      · exact absurd success (not_success_of_blocked returned)
      · split at returned <;> simp at returned
  | active attempt =>
      simp only [callStep] at returned
      split at returned
      · rename_i active
        simp only [Prod.mk.injEq, Progress.returned.injEq] at returned
        exact Or.inl ⟨attempt, rfl, returned.1.symm, active⟩
      · simp at returned
  | register attempt =>
      simp only [callStep] at returned
      split at returned
      · rename_i row registering
        simp only [Prod.mk.injEq] at returned
        obtain ⟨rfl, -⟩ := returned
        obtain ⟨member, owned, active, planned⟩ := register_covers unique registering
        exact Or.inr ⟨row, member, owned, live_of_active active, planned⟩
      · simp at returned
      · exact absurd success (not_success_of_blocked returned)
  | enqueue attempt =>
      simp only [callStep] at returned
      split at returned
      · rename_i enqueueing
        simp only [Prod.mk.injEq] at returned
        obtain ⟨rfl, -⟩ := returned
        obtain ⟨row, member, owned, queued, triggered⟩ := enqueue_covers enqueueing
        exact Or.inr ⟨row, member, owned, by rw [queued]; rfl, planned_of_trigger triggered⟩
      · split at returned
        · simp at returned
        · exact absurd success (not_success_of_blocked returned)
      · exact absurd success (not_success_of_blocked returned)
      · exact absurd success (not_success_of_blocked returned)
  | handOffRegister attempt =>
      simp only [callStep] at returned
      split at returned <;> simp at returned
  | handOffMerge attempt =>
      simp only [callStep] at returned
      split at returned <;> simp at returned
  | handOffEnqueue attempt =>
      simp only [callStep] at returned
      split at returned
      · simp at returned
      · split at returned <;> simp at returned
      · simp at returned

theorem threadStep_reported {pair : Pair} {comments : List Comment} {db next : Db}
    {computed : CommentTrigger} {resolution : Resolution} {thread : Thread} {threads : List Thread}
    {comment : Id} {outcome : Outcome}
    (stepped : threadStep pair comments db computed resolution thread =
      (next, threads, [(comment, outcome)])) :
    ∃ stored pc replay todo, thread = .calling comment stored pc replay todo ∧
      callStep pair db (pc.routed computed stored) comment resolution pc =
        (next, .returned outcome) := by
  cases thread with
  | listing completed => simp [threadStep] at stepped
  | calling called stored pc replay todo =>
      simp only [threadStep] at stepped
      split at stepped
      · simp at stepped
      · rename_i returned_eq
        simp only [Prod.mk.injEq, List.cons.injEq, and_true] at stepped
        obtain ⟨rfl, -, rfl, rfl⟩ := stepped
        exact ⟨stored, pc, replay, todo, rfl, returned_eq⟩
      · simp at stepped

theorem systemStep_reported {pair : Pair} {system : System} {event : Event} {comment : Id}
    {outcome : Outcome}
    (reported : (systemStep pair system event).reported = system.reported ++ [(comment, outcome)]) :
    ∃ index computed resolution stored pc replay todo,
      event = .advance index computed resolution ∧
      system.threads[index]? = some (.calling comment stored pc replay todo) ∧
      (systemStep pair system event).comments = system.comments ∧
      callStep pair system.db (pc.routed computed stored) comment resolution pc =
        ((systemStep pair system event).db, .returned outcome) := by
  cases event with
  | table action => simp [systemStep] at reported
  | post => simp [systemStep] at reported
  | advance index computed resolution =>
      cases found : system.threads[index]? with
      | none => simp [systemStep, found] at reported
      | some thread =>
          simp only [systemStep, found, List.append_cancel_left_eq] at reported ⊢
          obtain ⟨stored, pc, replay, todo, rfl, returned⟩ :=
            threadStep_reported (Prod.ext rfl (Prod.ext rfl reported))
          exact ⟨index, computed, resolution, stored, pc, replay, todo, rfl, found, trivial, returned⟩

theorem success_covered_step {pair : Pair} {system : System} {event : Event}
    (wellFormed : WellFormed system.db) (onTime : timely pair system event = true) :
    SuccessCovered pair system event := by
  intro comment outcome reported success
  obtain ⟨index, computed, resolution, stored, pc, replay, todo, rfl, found, comments, returned⟩ :=
    systemStep_reported reported
  rcases callStep_success wellFormed.unique returned success with
    ⟨attempt, rfl, same, active⟩ | ⟨row, member, owned, live, planned⟩
  · simp only [timely, found, active, Bool.not_true, Bool.false_or, List.any_eq_true] at onTime
    obtain ⟨task, member, older⟩ := onTime
    simp only [Bool.and_eq_true, Bool.or_eq_true, decide_eq_true_eq, List.any_eq_true] at older
    obtain ⟨⟨owned, state⟩, posted, listed, isComment, earlier⟩ := older
    have live : task.status.terminal = false := by
      rcases state with queued | isActive
      · rw [queued]; rfl
      · exact live_of_active isActive
    rw [comments, same]
    refine List.any_eq_true.mpr ⟨task, member, ?_⟩
    simp only [covers, owned, live, Bool.not_false, Bool.true_and, Bool.or_eq_true, List.any_eq_true,
      Bool.and_eq_true, decide_eq_true_eq]
    exact Or.inr (Or.inr ⟨posted, listed, isComment, earlier⟩)
  · exact covered_of_planned member owned live planned

/-- In every interleaving in which no call defers to tasks that are all as young as its
comment or younger, every success is covered at the moment it is returned. -/
theorem success_backed_by_coverage (pair : Pair) (limits : Id → Nat) (events : List Event)
    (onTime : RunLib.Every (systemStep pair) (fun system event => timely pair system event = true)
      (startSystem limits) events) :
    RunLib.Every (systemStep pair) (SuccessCovered pair) (startSystem limits) events := by
  have start : Reached limits (startSystem limits).db := ⟨[], rfl⟩
  refine @RunLib.every_of_invariant _ _ _ (fun system : System => Reached limits system.db) _ _ _ _
    start ?_ ?_ onTime
  · intro system event reached
    exact reached.simulated (systemStep_simulated system event)
  · intro system event reached allowed
    exact success_covered_step reached.wellFormed allowed

def somePair : Pair := ⟨9, 1, none⟩

def mentioned : CommentTrigger := ⟨.mentionAgent, none⟩

def resolvedPlainly : Resolution := .resolved ⟨2, 0, none, noAttribution, noOverlay⟩

def advanceFirst : Event := .advance 0 mentioned resolvedPlainly

def orderlyEvents : List Event :=
  [.post, advanceFirst, advanceFirst, .table (.beginClaimTask 1), .table (.finishClaimTask 1 []),
    .table (.elapse 1), .post, advanceFirst, advanceFirst, advanceFirst]

theorem success_backed_by_coverage_orderly :
    (RunLib.run (systemStep somePair) (startSystem fun _ => 1) orderlyEvents).reported =
        [(0, .queued), (1, .deferred)] ∧
      RunLib.Every (systemStep somePair) (SuccessCovered somePair) (startSystem fun _ => 1)
        orderlyEvents :=
  ⟨by decide, success_backed_by_coverage somePair (fun _ => 1) orderlyEvents (by decide)⟩

/-- Two comments are posted a second apart. The second is enqueued first; the first then sees
a pending task, the task is claimed, and the first defers to it. -/
def racingEvents : List Event :=
  [.post, .table (.elapse 1), .post, .advance 1 mentioned resolvedPlainly,
    .advance 1 mentioned resolvedPlainly, advanceFirst, .table (.beginClaimTask 1),
    .table (.finishClaimTask 1 []), advanceFirst]

theorem deferred_without_coverage_racing :
    ¬ RunLib.Every (systemStep somePair) (SuccessCovered somePair) (startSystem fun _ => 1)
      (racingEvents ++ [advanceFirst]) := by
  rw [RunLib.every_append]
  rintro ⟨-, last, -⟩
  have lost := last 0 .deferred (by decide) rfl
  exact absurd lost (by decide)

end MulticaOS.Comments
