import MulticaOS.TaskQueue.Generations
import MulticaOS.TaskQueue.Lifecycle

/-!
What stays on record of a task: no statement loses a comment that the task covers, moves the task to
another issue or agent, or attributes work that has begun to somebody else.
-/

namespace MulticaOS.TaskQueue

structure Recorded (old new : Task) : Prop extends SameLineage old new where
  issueId : old.issueId.isSome = true → new.issueId = old.issueId
  planned : old.planned ⊆ new.planned
  attribution : old.status.begun = true → new.status.begun = true ∧ new.attribution = old.attribution

theorem Moved.recorded {now : Nat} {action : Action} {old new : Task} (moved : Moved now action old new) :
    Recorded old new where
  toSameLineage := moved.lineage
  issueId linked := by
    cases moved with
    | claim => rfl
    | edit changed =>
        cases changed with
        | linkIssue completed unlinked =>
            rw [unlinked.1] at linked
            contradiction
        | _ => rfl
  planned := by
    cases moved with
    | claim => exact List.Subset.refl _
    | edit changed =>
        cases changed with
        | mergeComment _ queued => exact planned_mergeComment _ old
        | registerComment _ active => exact planned_registerComment _ old
        | _ => exact List.Subset.refl _
  attribution begun := ⟨moved.begun begun, moved.attribution begun⟩

theorem Recorded.trans {old middle new : Task} (first : Recorded old middle) (second : Recorded middle new) :
    Recorded old new where
  id := second.id.trans first.id
  agentId := second.agentId.trans first.agentId
  chatSessionId := second.chatSessionId.trans first.chatSessionId
  autopilotRunId := second.autopilotRunId.trans first.autopilotRunId
  createdAt := second.createdAt.trans first.createdAt
  attempt := second.attempt.trans first.attempt
  maxAttempts := second.maxAttempts.trans first.maxAttempts
  retryOfTaskId := second.retryOfTaskId.trans first.retryOfTaskId
  chatInputTaskId := second.chatInputTaskId.trans first.chatInputTaskId
  headSha := second.headSha.trans first.headSha
  issueId linked := (second.issueId (first.issueId linked ▸ linked)).trans (first.issueId linked)
  planned := List.Subset.trans first.planned second.planned
  attribution begun := by
    obtain ⟨still, same⟩ := first.attribution begun
    exact ⟨(second.attribution still).1, (second.attribution still).2.trans same⟩

structure KeepsRecords (db : Db) : Prop where
  each : ∀ id task, getAgentTask db id = some task → ∀ actions,
    ∃ later, getAgentTask (RunLib.run step db actions) id = some later ∧ Recorded task later

theorem records_kept (limits : Id → Nat) (history : List Action) :
    KeepsRecords (RunLib.run step (initial limits) history) where
  each id task found actions := by
    refine getAgentTask_run (fun _ _ old new moved kept => kept.trans moved.recorded)
      (reachable_receipts limits history).toWellFormed found ?_ actions
    exact ⟨⟨rfl, rfl, rfl, rfl, rfl, rfl, rfl, rfl, rfl, rfl⟩, fun _ => rfl, List.Subset.refl _, fun begun => ⟨begun, rfl⟩⟩

end MulticaOS.TaskQueue
