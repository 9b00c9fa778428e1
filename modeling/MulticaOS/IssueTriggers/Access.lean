import MulticaOS.Attribution.Classify
import MulticaOS.Issues.Updates

/-!
Who may start an agent: the agents, squads and runtimes of a site, the caller of a request, and the
invocation gate in front of an agent.
-/

namespace MulticaOS.IssueTriggers

abbrev Id := TaskQueue.Id

inductive Actor where
  | member (userId : Id)
  | agent (agentId : Id)
  deriving DecidableEq

/-- The actor of a request, and its `X-Task-ID` header where that is an id. -/
structure Caller where
  actor : Actor
  taskId : Option Id
  deriving DecidableEq

inductive PermissionMode where
  | ownerOnly
  | publicTo
  deriving DecidableEq

inductive InvocationTarget where
  | workspace
  | member (userId : Id)
  | team (teamId : Id)
  deriving DecidableEq

structure Agent where
  workspaceId : Id
  ofKindUser : Bool
  archived : Bool
  runtimeId : Option Id
  ownerId : Option Id
  permissionMode : PermissionMode
  targets : List InvocationTarget

structure Squad where
  workspaceId : Id
  archived : Bool
  leaderId : Id

structure Provenance where
  creatorType : Attribution.ActorType
  creatorId : Id
  originType : Option Attribution.OriginType
  originId : Option Id

/-- What a request reads and no modelled request writes.  `issueIds` lists the keys of the issue
table, `runtimeOnline` the runtimes with their status, and `overlay` answers for
`buildRuntimeMCPOverlay`. -/
structure Site where
  agents : Id → Option Agent
  squads : Id → Option Squad
  runtimeOnline : Id → Option Bool
  member : Id → Id → Bool
  project : Id → Id → Bool
  reviewHeadSha : Id → Option String
  overlay : Option Id → Id → TaskQueue.Overlay
  issueIds : List Id
  provenance : Id → Provenance
  queries : Attribution.Queries
  parsers : Issues.Parsers

def getAgentInWorkspace (site : Site) (id workspaceId : Id) : Option Agent :=
  (site.agents id).filter fun agent => agent.workspaceId = workspaceId && agent.ofKindUser

def getSquadInWorkspace (site : Site) (id workspaceId : Id) : Option Squad :=
  (site.squads id).filter fun squad => squad.workspaceId = workspaceId

/-- The human a run is judged by: the member, or the one at the top of the agent's chain. -/
def effectiveUser (actor : Actor) (originatorUserId : Option Id) : Option Id :=
  match actor with
  | .member userId => some userId
  | .agent _ => originatorUserId

def InvocationTarget.admits (site : Site) (actor : Actor) (effective : Option Id) (workspaceId : Id) :
    InvocationTarget → Bool
  | .workspace =>
      (effective.any fun user => site.member workspaceId user) ||
        match actor with
        | .agent _ => true
        | .member _ => false
  | .member userId => effective = some userId
  | .team _ => false

def canInvokeAgent (site : Site) (agent : Agent) (actor : Actor) (originatorUserId : Option Id)
    (workspaceId : Id) : Bool :=
  let effective := effectiveUser actor originatorUserId
  if effective.isSome && agent.ownerId = effective then true
  else if agent.permissionMode ≠ .publicTo then false
  else agent.targets.any (InvocationTarget.admits site actor effective workspaceId)

def invokeOriginatorFromRequest (site : Site) (caller : Caller) : Option Id :=
  match caller.actor with
  | .member userId => some userId
  | .agent _ =>
      (caller.taskId.bind site.queries.getAgentTask).bind fun task => task.attribution.originatorUserId

/-- The gate with the originator of the request: what a preview and `validateAssigneePair` ask. -/
def requestCanInvoke (site : Site) (caller : Caller) (workspaceId : Id) (agent : Agent) : Bool :=
  canInvokeAgent site agent caller.actor (invokeOriginatorFromRequest site caller) workspaceId

def memberActorUserId (actor : Actor) : Option Id :=
  match actor with
  | .member userId => some userId
  | .agent _ => none

/-- `AgentReadiness`, where a runtime that cannot be read counts as not ready. -/
def agentReadiness (site : Site) (agent : Agent) : Bool :=
  !agent.archived && (agent.runtimeId.bind site.runtimeOnline).getD false

def Site.directory (site : Site) (caller : Caller) : Issues.Directory where
  member := site.member
  agent workspaceId id := (getAgentInWorkspace site id workspaceId).map fun agent =>
    ⟨agent.archived, requestCanInvoke site caller workspaceId agent⟩
  squad workspaceId id := (getSquadInWorkspace site id workspaceId).map fun squad =>
    ⟨squad.archived, (site.agents squad.leaderId).map fun leader =>
      ⟨leader.archived, requestCanInvoke site caller workspaceId leader⟩⟩
  project := site.project

theorem getAgentInWorkspace_iff {site : Site} {id workspaceId : Id} {agent : Agent} :
    getAgentInWorkspace site id workspaceId = some agent ↔
      site.agents id = some agent ∧ agent.workspaceId = workspaceId ∧ agent.ofKindUser = true := by
  simp [getAgentInWorkspace, Option.filter_eq_some_iff]

theorem validateAssigneePair_agent {site : Site} {caller : Caller} {workspaceId id : Id} {agent : Agent}
    (found : site.agents id = some agent) (live : agent.archived = false) :
    Issues.validateAssigneePair (site.directory caller) workspaceId (some "agent") (some id) = .ok () ↔
      agent.workspaceId = workspaceId ∧ agent.ofKindUser = true ∧
        requestCanInvoke site caller workspaceId agent = true := by
  simp only [Issues.validateAssigneePair, Site.directory]
  cases here : getAgentInWorkspace site id workspaceId with
  | none =>
      simp only [Option.map_none, reduceCtorEq, false_iff]
      rintro ⟨own, kind, -⟩
      rw [getAgentInWorkspace_iff.mpr ⟨found, own, kind⟩] at here
      cases here
  | some other =>
      obtain ⟨same, own, kind⟩ := getAgentInWorkspace_iff.mp here
      obtain rfl : agent = other := Option.some.inj (found.symm.trans same)
      simp [live, own, kind]

theorem validateAssigneePair_squad {site : Site} {caller : Caller} {workspaceId id : Id} {squad : Squad}
    {leader : Agent} (found : getSquadInWorkspace site id workspaceId = some squad)
    (led : site.agents squad.leaderId = some leader) (live : leader.archived = false) :
    Issues.validateAssigneePair (site.directory caller) workspaceId (some "squad") (some id) = .ok () ↔
      squad.archived = false ∧ requestCanInvoke site caller workspaceId leader = true := by
  simp only [Issues.validateAssigneePair, Site.directory, found, led, Option.map_some]
  cases squad.archived with
  | true => simp
  | false => simp [Option.filter, live]

end MulticaOS.IssueTriggers
