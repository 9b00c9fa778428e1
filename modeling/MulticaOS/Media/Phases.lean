import MulticaOS.Media.Programs

/-!
The order of the calls of an ingest and of a sweep: an object is uploaded after its intent is
recorded, a bind commits after it has attached all that it claimed, and a row is tombstoned or
dropped after its object was found unreferenced and deleted.
-/

namespace MulticaOS.Media

open ProgramLib

/-- `resolving` has the keys that are still to be recorded, `attaching` the claimed keys and the references
that are still to be attached. -/
inductive Phase
  | resolving (left : List String) (refs : List MediaRef)
  | recorded (storageKey : String) (left : List String) (refs : List MediaRef)
  | resolved (refs : List MediaRef)
  | opened (refs : List MediaRef)
  | attaching (claimed : List String) (todo : List MediaRef)
  | failing
  | closed
  | sweeping
  | settling (batch : List ClaimedRow)
  | kept (claimed : ClaimedRow) (batch : List ClaimedRow)
  | unreferenced (claimed : ClaimedRow) (batch : List ClaimedRow)
  | removed (claimed : ClaimedRow) (batch : List ClaimedRow)

def Phase.left : Phase → List String
  | .resolving left _ => left
  | .recorded _ left _ => left
  | _ => []

inductive Moves (store : Store) : Phase → (request : Call) → Answer request → Phase → Prop
  | expired (left refs answer) : Moves store (.resolving left refs) .expired answer (.resolving left refs)
  | record (intent left refs) (url : intent.storageURL = store.objectURL intent.storageKey) :
      Moves store (.resolving (intent.storageKey :: left) refs) (.record intent) (Except.ok true)
        (.recorded intent.storageKey left refs)
  | recordRefused (intent left refs) (url : intent.storageURL = store.objectURL intent.storageKey) :
      Moves store (.resolving (intent.storageKey :: left) refs) (.record intent) (Except.ok false)
        (.resolving left refs)
  | recordFailed (intent left refs text) (url : intent.storageURL = store.objectURL intent.storageKey) :
      Moves store (.resolving (intent.storageKey :: left) refs) (.record intent) (Except.error text)
        (.resolving left refs)
  | download (res storageKey left refs answer) : Moves store (.recorded storageKey left refs)
      (.download res) answer (.recorded storageKey left refs)
  | downloadFailed (res storageKey left refs answer) : Moves store (.recorded storageKey left refs)
      (.download res) answer (.resolving left refs)
  | upload (storageKey left refs answer) : Moves store (.recorded storageKey left refs)
      (.upload storageKey) answer (.resolving left (refs ++ [⟨storageKey, store.objectURL storageKey⟩]))
  | uploadFailed (storageKey left refs answer) : Moves store (.recorded storageKey left refs)
      (.upload storageKey) answer (.resolving left refs)
  | resolve (left refs answer) : Moves store (.resolving left refs) .expired answer (.resolved refs)
  | giveUp (left refs answer) : Moves store (.resolving left refs) .expired answer (.resolved [])
  | begin (refs answer) : Moves store (.resolved refs) .begin (Except.ok answer) (.opened refs)
  | beginEmpty (answer) : Moves store (.resolved []) .begin (Except.ok answer) (.attaching [] [])
  | beginFailed (refs text) : Moves store (.resolved refs) .begin (Except.error text) .closed
  | claim (refs workspaceID claimed) : Moves store (.opened refs)
      (.claimForBind (refs.map MediaRef.storageKey) workspaceID) (Except.ok claimed)
      (.attaching claimed (refs.filter fun ref => ref.storageKey ∈ claimed))
  | claimFailed (refs workspaceID text) : Moves store (.opened refs)
      (.claimForBind (refs.map MediaRef.storageKey) workspaceID) (Except.error text) .failing
  | create (claimed ref todo workspaceID answer) : Moves store (.attaching claimed (ref :: todo))
      (.createAttachment workspaceID ref.storageURL) (Except.ok answer) (.attaching claimed todo)
  | createFailed (claimed ref todo workspaceID text) : Moves store (.attaching claimed (ref :: todo))
      (.createAttachment workspaceID ref.storageURL) (Except.error text) .failing
  | link (claimed chatMessageID answer) : Moves store (.attaching claimed [])
      (.linkAttachments chatMessageID) (Except.ok answer) (.attaching claimed [])
  | linkFailed (claimed chatMessageID text) : Moves store (.attaching claimed [])
      (.linkAttachments chatMessageID) (Except.error text) .failing
  | clearPending (claimed chatMessageID answer) : Moves store (.attaching claimed [])
      (.clearMediaPending chatMessageID) (Except.ok answer) (.attaching claimed [])
  | clearPendingFailed (claimed chatMessageID text) : Moves store (.attaching claimed [])
      (.clearMediaPending chatMessageID) (Except.error text) .failing
  | commit (claimed) : Moves store (.attaching claimed []) .commit CommitAnswer.committed .closed
  | commitFailed (claimed text) :
      Moves store (.attaching claimed []) .commit (CommitAnswer.failed text) .failing
  | abandon (refs answer) : Moves store (.opened refs) .rollback answer .closed
  | rollback (answer) : Moves store .failing .rollback answer .closed
  | clearAlone (chatMessageID answer) :
      Moves store .closed (.clearMediaPending chatMessageID) answer .closed
  | claimRows (leaseToken rows) :
      Moves store .sweeping (.claimForReconcile leaseToken) (Except.ok rows) (.settling rows)
  | claimRowsFailed (leaseToken text) :
      Moves store .sweeping (.claimForReconcile leaseToken) (Except.error text) .closed
  | renew (batch storageKey workspaceID leaseToken answer) : Moves store (.settling batch)
      (.renew storageKey workspaceID leaseToken) answer (.settling batch)
  | check (batch claimed) (member : claimed ∈ batch) : Moves store (.settling batch)
      (.isReferenced claimed.row.chatMessageID claimed.row.workspaceID claimed.row.storageURL)
      (Except.ok false) (.unreferenced claimed batch)
  | keep (batch claimed) (member : claimed ∈ batch) : Moves store (.settling batch)
      (.isReferenced claimed.row.chatMessageID claimed.row.workspaceID claimed.row.storageURL)
      (Except.ok true) (.kept claimed batch)
  | checkFailed (batch chatMessageID workspaceID storageURL text) : Moves store (.settling batch)
      (.isReferenced chatMessageID workspaceID storageURL) (Except.error text) (.settling batch)
  | release (batch storageKey workspaceID leaseToken backoff answer) : Moves store (.settling batch)
      (.release storageKey workspaceID leaseToken backoff) answer (.settling batch)
  | remove (batch claimed answer) : Moves store (.unreferenced claimed batch)
      (.deleteObject claimed.storageKey) (Except.ok answer) (.removed claimed batch)
  | removeFailed (batch claimed text) : Moves store (.unreferenced claimed batch)
      (.deleteObject claimed.storageKey) (Except.error text) (.settling batch)
  | tombstone (batch claimed leaseToken delay pass answer)
      (next : nextTombstonePass claimed.row = some (delay, pass)) : Moves store (.removed claimed batch)
      (.tombstone claimed.storageKey claimed.row.workspaceID leaseToken delay pass) answer (.settling batch)
  | clear (batch claimed leaseToken answer) (last : nextTombstonePass claimed.row = none) :
      Moves store (.removed claimed batch)
        (.clear claimed.storageKey claimed.row.workspaceID leaseToken) answer (.settling batch)
  | clearKept (batch claimed leaseToken answer) : Moves store (.kept claimed batch)
      (.clear claimed.storageKey claimed.row.workspaceID leaseToken) answer (.settling batch)

def Ends {Result : Type} (_ : Phase) (_ : Result) : Prop := True

section Ingesting

variable {store : Store} {ingest : Ingest}

theorem resolveMedia_obeys (resources : List Resource) (refs : List MediaRef) :
    (resolveMedia store ingest resources refs).Obeys (Moves store)
      (fun phase result => phase = .resolving [] result)
      (.resolving (resources.map (ingest.storageKey store)) refs) := by
  induction resources generalizing refs with
  | nil => rfl
  | cons res rest ih =>
      intro answer
      match answer with
      | .error text => exact ⟨_, .recordFailed (ingest.intent store res) _ refs text rfl, ih refs⟩
      | .ok false => exact ⟨_, .recordRefused (ingest.intent store res) _ refs rfl, ih refs⟩
      | .ok true =>
          refine ⟨_, .record (ingest.intent store res) _ refs rfl, ?_⟩
          intro answer
          cases answer with
          | error text => exact ⟨_, .downloadFailed res _ _ refs _, ih refs⟩
          | ok downloaded =>
              refine ⟨_, .download res _ _ refs _, ?_⟩
              intro answer
              cases answer with
              | error text => exact ⟨_, .uploadFailed _ _ refs _, ih refs⟩
              | ok uploaded => exact ⟨_, .upload _ _ refs _, ih _⟩

theorem finalizeBind_obeys (claimed : List String) :
    (finalizeBind ingest).Obeys (Moves store) Ends (.attaching claimed []) := by
  intro answer
  cases answer with
  | error text =>
      exact ⟨.failing, .clearPendingFailed claimed _ text, fun answer => ⟨.closed, .rollback answer, trivial⟩⟩
  | ok cleared =>
      refine ⟨.attaching claimed [], .clearPending claimed _ cleared, ?_⟩
      intro answer
      cases answer with
      | committed => exact ⟨.closed, .commit claimed, trivial⟩
      | failed text =>
          exact ⟨.failing, .commitFailed claimed text, fun answer => ⟨.closed, .rollback answer, trivial⟩⟩

def Bound {Result : Type} (phase : Phase) : Except String Result → Prop
  | .error _ => phase = .failing ∨ ∃ refs, phase = .opened refs
  | .ok _ => ∃ claimed, phase = .attaching claimed []

theorem createAttachments_obeys (claimed : List String) (refs : List MediaRef) (created : Bool) :
    (createAttachments ingest claimed refs created).Obeys (Moves store) Bound
      (.attaching claimed (refs.filter fun ref => ref.storageKey ∈ claimed)) := by
  induction refs generalizing created with
  | nil => exact ⟨claimed, rfl⟩
  | cons ref rest ih =>
      unfold createAttachments
      by_cases mine : ref.storageKey ∈ claimed
      · rw [if_pos mine, List.filter_cons_of_pos (by simpa using mine)]
        intro answer
        cases answer with
        | error text => exact ⟨.failing, .createFailed claimed ref _ _ text, Or.inl rfl⟩
        | ok done => exact ⟨_, .create claimed ref _ _ done, ih true⟩
      · rw [if_neg mine, List.filter_cons_of_neg (by simpa using mine)]
        exact ih created

theorem bindMediaRefs_obeys (refs : List MediaRef) :
    (bindMediaRefs ingest refs).Obeys (Moves store) Bound (.opened refs) := by
  have refused : ∀ text : String, Bound (.opened refs) (Except.error text : Except String Unit) :=
    fun _ => Or.inr ⟨refs, rfl⟩
  unfold bindMediaRefs
  by_cases noWorkspace : ingest.workspaceID = ""
  · rw [if_pos noWorkspace]
    exact refused _
  · rw [if_neg noWorkspace]
    by_cases noMessage : ingest.chatMessageID = ""
    · rw [if_pos noMessage]
      exact refused _
    · rw [if_neg noMessage]
      cases refusal refs with
      | some text => exact refused text
      | none =>
          dsimp only
          rw [Program.ask_bind]
          intro answer
          cases answer with
          | error text => exact ⟨.failing, .claimFailed refs _ text, Or.inl rfl⟩
          | ok claimed =>
              refine ⟨_, .claim refs _ claimed, Program.Obeys.bind ?_⟩
              refine (createAttachments_obeys claimed refs false).mono ?_
              intro phase result bound
              match result with
              | .error text => exact bound
              | .ok false => exact bound
              | .ok true =>
                  obtain ⟨attached, rfl⟩ := bound
                  intro answer
                  cases answer with
                  | error text => exact ⟨.failing, .linkFailed attached _ text, Or.inl rfl⟩
                  | ok linked => exact ⟨_, .link attached _ linked, attached, rfl⟩

theorem bindMedia_obeys (refs : List MediaRef) :
    (bindMedia ingest refs).Obeys (Moves store) Ends (.resolved refs) := by
  have rolledBack : ∀ phase, phase = .failing ∨ (∃ others, phase = .opened others) →
      ∀ answer, Moves store phase .rollback answer .closed := by
    rintro phase (rfl | ⟨others, rfl⟩) answer
    · exact .rollback answer
    · exact .abandon others answer
  unfold bindMedia
  rw [Program.ask_bind]
  intro answer
  cases answer with
  | error text => exact ⟨.closed, .beginFailed refs text, trivial⟩
  | ok begun =>
      dsimp only
      by_cases empty : refs = []
      · subst empty
        rw [if_pos rfl]
        exact ⟨.attaching [] [], .beginEmpty begun, finalizeBind_obeys []⟩
      · rw [if_neg empty]
        refine ⟨.opened refs, .begin refs begun, Program.Obeys.bind ?_⟩
        refine (bindMediaRefs_obeys refs).mono ?_
        intro phase result bound
        cases result with
        | error text =>
            exact fun answer => ⟨.closed, rolledBack phase bound answer,
              fun answer => ⟨.closed, .clearAlone _ answer, trivial⟩⟩
        | ok bound' =>
            obtain ⟨claimed, rfl⟩ := bound
            exact finalizeBind_obeys claimed

theorem resolveInTime_obeys : (resolveInTime store ingest).Obeys (Moves store)
    (fun phase result => ∃ left refs, phase = .resolving left refs ∧ (result = refs ∨ result = []))
    (.resolving (ingest.resources.map (ingest.storageKey store)) []) := by
  unfold resolveInTime
  rw [Program.ask_bind]
  intro answer
  match answer with
  | true => exact ⟨_, .expired _ [] _, _, [], rfl, Or.inr rfl⟩
  | false =>
      refine ⟨_, .expired _ [] _, ?_⟩
      refine (resolveMedia_obeys ingest.resources []).mono ?_
      rintro phase result rfl
      exact ⟨[], result, rfl, Or.inl rfl⟩

theorem resolveAndBindMedia_obeys : (resolveAndBindMedia store ingest).Obeys (Moves store) Ends
    (.resolving (ingest.resources.map (ingest.storageKey store)) []) := by
  refine Program.Obeys.bind (resolveInTime_obeys.mono ?_)
  rintro phase result ⟨left, refs, rfl, fewer⟩ answer
  have gaveUp : Moves store (.resolving left refs) .expired answer (.resolved []) := .giveUp left refs answer
  match answer with
  | true => exact ⟨.resolved [], gaveUp, bindMedia_obeys []⟩
  | false =>
      rcases fewer with rfl | rfl
      · exact ⟨.resolved result, .resolve left result false, bindMedia_obeys result⟩
      · exact ⟨.resolved [], gaveUp, bindMedia_obeys []⟩

end Ingesting

section Sweeping

variable {store : Store} {leaseToken : Nat}

theorem settleDeletedObject_obeys {batch : List ClaimedRow} {claimed : ClaimedRow} :
    (settleDeletedObject claimed leaseToken).Obeys (Moves store) (fun phase _ => phase = .settling batch)
      (.unreferenced claimed batch) := by
  intro answer
  cases answer with
  | error text =>
      exact ⟨.settling batch, .removeFailed batch claimed text,
        fun answer => ⟨.settling batch, .release batch _ _ _ _ answer, rfl⟩⟩
  | ok deleted =>
      refine ⟨.removed claimed batch, .remove batch claimed deleted, ?_⟩
      dsimp only
      cases next : nextTombstonePass claimed.row with
      | none => exact fun answer => ⟨.settling batch, .clear batch claimed leaseToken answer next, rfl⟩
      | some position =>
          exact fun answer => ⟨.settling batch, .tombstone batch claimed leaseToken _ _ answer next, rfl⟩

theorem settle_obeys {batch : List ClaimedRow} {claimed : ClaimedRow} (member : claimed ∈ batch) :
    (settle claimed leaseToken).Obeys (Moves store) (fun phase _ => phase = .settling batch)
      (.settling batch) := by
  unfold settle
  rw [Program.ask_bind]
  intro answer
  refine ⟨.settling batch, .renew batch _ _ _ answer, ?_⟩
  cases answer with
  | error text => rfl
  | ok renewed =>
      dsimp only
      by_cases lost : renewed = 0
      · rw [if_pos lost]
        rfl
      · rw [if_neg lost, Program.ask_bind]
        intro answer
        match answer with
        | .error text =>
            exact ⟨.settling batch, .checkFailed batch _ _ _ text,
              fun answer => ⟨.settling batch, .release batch _ _ _ _ answer, rfl⟩⟩
        | .ok true =>
            exact ⟨.kept claimed batch, .keep batch claimed member,
              fun answer => ⟨.settling batch, .clearKept batch claimed leaseToken answer, rfl⟩⟩
        | .ok false =>
            exact ⟨.unreferenced claimed batch, .check batch claimed member, settleDeletedObject_obeys⟩

theorem settleAll_obeys {batch rows : List ClaimedRow} (members : rows ⊆ batch) :
    (settleAll leaseToken rows).Obeys (Moves store) Ends (.settling batch) := by
  induction rows with
  | nil => trivial
  | cons claimed rest ih =>
      have settled := @settle_obeys store leaseToken batch claimed (members (by simp))
      refine Program.Obeys.bind (settled.mono ?_)
      rintro phase result rfl
      exact ih fun other member => members (by simp [member])

theorem runOnce_obeys : (runOnce leaseToken).Obeys (Moves store) Ends .sweeping := by
  intro answer
  cases answer with
  | error text => exact ⟨.closed, .claimRowsFailed leaseToken text, trivial⟩
  | ok rows => exact ⟨.settling rows, .claimRows leaseToken rows, settleAll_obeys fun _ member => member⟩

end Sweeping

end MulticaOS.Media
