import MulticaOS.Resolutions.Threads

/-!
Requests that resolve and unresolve comments and that reply to them, from `handler/comment.go`
and `task.go`, statement by statement under READ COMMITTED: a statement sees what was committed
when it started, and an update of a row that an open transaction has updated waits for its end,
then looks at the row again.
-/

namespace MulticaOS.Resolutions

structure ResolveRequest where
  target : Id
  issueId : Id
  workspaceId : Id
  resolvedByType : String
  resolvedById : Id
  deriving DecidableEq

structure Reply where
  issueId : Id
  parentId : Option Id
  deriving DecidableEq

/-- A request, named after the statement it runs next; `clearing` is the update of
`ClearOtherThreadResolutions` between two of the rows that it has selected. -/
inductive Process where
  | loadResolve (comment workspace : Id) (actorType : String) (actorId : Id)
  | clearOthers (request : ResolveRequest)
  | clearing (request : ResolveRequest) (rest : List Id)
  | setResolved (request : ResolveRequest)
  | commitResolve (request : ResolveRequest)
  | loadUnresolve (comment workspace : Id)
  | unresolve (comment : Id)
  | loadParent (reply : Reply)
  | loadRoot (reply : Reply)
  | insertReply (reply : Reply) (root : Option Comment)
  | returned
  deriving DecidableEq

structure Transaction where
  process : Process
  writes : List Comment
  deriving DecidableEq

structure State where
  workspaceOf : Id → Id
  comments : List Comment
  nextComment : Id
  transactions : List Transaction

structure Outside where
  now : Nat
  chosen : Nat

def othersResolved (comments : List Comment) (request : ResolveRequest) : List Id :=
  ids (comments.filter fun row =>
    row.id ∈ descendants comments request.target request.issueId request.workspaceId &&
      row.id ≠ request.target && row.resolved)

def Comment.unresolve (comment : Comment) : Comment :=
  { comment with resolvedAt := none, resolvedByType := none, resolvedById := none }

def Comment.resolve (request : ResolveRequest) (now : Nat) (comment : Comment) : Comment :=
  { comment with
    resolvedAt := comment.resolvedAt.or (some now)
    resolvedByType := comment.resolvedByType.or (some request.resolvedByType)
    resolvedById := comment.resolvedById.or (some request.resolvedById) }

def getCommentInWorkspace (comments : List Comment) (id workspace : Id) : Option Comment :=
  comments.find? fun row => row.id = id && row.workspaceId = workspace

def updateComment (id : Id) (change : Comment → Comment) (comments : List Comment) : List Comment :=
  TableLib.updateWhere (fun row => row.id = id) change comments

def written (writes : List Comment) (row : Comment) : Comment :=
  (writes.find? fun version => version.id = row.id).getD row

def commitWrites (writes comments : List Comment) : List Comment := comments.map (written writes)

def lockedByOther (state : State) (index : Nat) (id : Id) : Prop :=
  ∃ other ∈ state.transactions.zipIdx, other.2 ≠ index ∧ ∃ version ∈ other.1.writes, version.id = id

instance (state : State) (index : Nat) (id : Id) : Decidable (lockedByOther state index id) :=
  inferInstanceAs (Decidable (∃ other ∈ state.transactions.zipIdx, _))

def put (state : State) (index : Nat) (process : Process) (writes : List Comment) : State :=
  { state with transactions := state.transactions.set index ⟨process, writes⟩ }

def goOn (state : State) (index : Nat) (process : Process) : State := put state index process []

def loadedResolve (actorType : String) (actorId : Id) : Option Comment → Process
  | none => .returned
  | some row => .clearOthers ⟨row.id, row.issueId, row.workspaceId, actorType, actorId⟩

def clearRow (state : State) (index : Nat) (request : ResolveRequest) (rest : List Id)
    (writes : List Comment) (id : Id) : State :=
  if lockedByOther state index id then state
  else
    match getComment state.comments id with
    | none => put state index (.clearing request (rest.erase id)) writes
    | some row =>
        if row.resolved then
          put state index (.clearing request (rest.erase id)) (writes ++ [row.unresolve])
        else put state index (.clearing request (rest.erase id)) writes

def insertReply (state : State) (reply : Reply) : State :=
  { state with
    comments := state.comments ++
      [⟨state.nextComment, reply.issueId, state.workspaceOf reply.issueId, reply.parentId, none, none, none⟩]
    nextComment := state.nextComment + 1 }

/-- `AutoUnresolveThreadOnReply` goes by the root that was read before the reply. -/
def afterReply : Option Comment → Process
  | none => .returned
  | some root => if root.resolved then .unresolve root.id else .returned

def statement (state : State) (index : Nat) (outside : Outside) (writes : List Comment) : Process → State
  | .loadResolve comment workspace actorType actorId =>
      goOn state index (loadedResolve actorType actorId
        (getCommentInWorkspace state.comments comment workspace))
  | .clearOthers request =>
      put state index (.clearing request (othersResolved state.comments request)) writes
  | .clearing request rest =>
      match rest with
      | [] => put state index (.setResolved request) writes
      | _ :: _ =>
          match rest[outside.chosen]? with
          | none => state
          | some id => clearRow state index request rest writes id
  | .setResolved request =>
      if lockedByOther state index request.target then state
      else
        match getComment state.comments request.target with
        | none => goOn state index .returned
        | some row => put state index (.commitResolve request) (writes ++ [row.resolve request outside.now])
  | .commitResolve _ =>
      goOn { state with comments := commitWrites writes state.comments } index .returned
  | .loadUnresolve comment workspace =>
      match getCommentInWorkspace state.comments comment workspace with
      | none => goOn state index .returned
      | some row => goOn state index (.unresolve row.id)
  | .unresolve comment =>
      if lockedByOther state index comment then state
      else goOn { state with comments := updateComment comment Comment.unresolve state.comments } index .returned
  | .loadParent reply =>
      match reply.parentId with
      | none => goOn state index (.insertReply reply none)
      | some parent =>
          match getComment state.comments parent with
          | none => goOn state index .returned
          | some row =>
              if row.issueId = reply.issueId then goOn state index (.loadRoot reply)
              else goOn state index .returned
  | .loadRoot reply =>
      goOn state index (.insertReply reply
        (reply.parentId.bind fun parent =>
          getThreadRoot state.comments parent (state.workspaceOf reply.issueId)))
  | .insertReply reply root => goOn (insertReply state reply) index (afterReply root)
  | .returned => state

inductive Action where
  | resolveComment (comment workspace : Id) (actorType : String) (actorId : Id)
  | unresolveComment (comment workspace : Id)
  | createComment (reply : Reply)
  | statement (index : Nat) (outside : Outside)
  | rollback (index : Nat)

def start (state : State) (process : Process) : State :=
  { state with transactions := state.transactions ++ [⟨process, []⟩] }

def step (state : State) : Action → State
  | .resolveComment comment workspace actorType actorId =>
      start state (.loadResolve comment workspace actorType actorId)
  | .unresolveComment comment workspace => start state (.loadUnresolve comment workspace)
  | .createComment reply => start state (.loadParent reply)
  | .statement index outside =>
      match state.transactions[index]? with
      | none => state
      | some transaction => statement state index outside transaction.writes transaction.process
  | .rollback index => goOn state index .returned

end MulticaOS.Resolutions
