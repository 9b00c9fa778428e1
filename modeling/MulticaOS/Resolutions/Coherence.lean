import MulticaOS.Lib.Lists
import MulticaOS.Lib.Runs
import MulticaOS.Resolutions.Transactions

/-!
A thread has at most one resolution, as long as no transaction clears the others of a thread
while another one is about to add a resolution that it cannot see.
-/

namespace MulticaOS.Resolutions

def SingleResolution (comments : List Comment) : Prop :=
  ∀ left ∈ comments, ∀ right ∈ comments, left.resolved = true → right.resolved = true →
    SameThread comments left.id right.id → left = right

def Process.resolving : Process → Option ResolveRequest
  | .clearing request _ => some request
  | .setResolved request => some request
  | .commitResolve request => some request
  | _ => none

def Process.remaining : Process → List Id
  | .clearing _ rest => rest
  | _ => []

def Secured (comments : List Comment) (process : Process) (request : ResolveRequest) : Prop :=
  process = .commitResolve request ∧ ∃ row ∈ comments, row.id = request.target ∧ row.resolved = true

def Addresses (comments : List Comment) (request : ResolveRequest) : Prop :=
  ∃ row ∈ comments, row.id = request.target ∧ row.issueId = request.issueId ∧
    row.workspaceId = request.workspaceId

def Answers (comments : List Comment) (reply : Reply) : Prop :=
  ∀ parent, reply.parentId = some parent → ∃ row ∈ comments, row.id = parent ∧ row.issueId = reply.issueId

structure Sound (comments : List Comment) (transaction : Transaction) : Prop where
  idle : transaction.process.resolving = none → transaction.writes = []
  shapes : ∀ version ∈ transaction.writes, ∀ row ∈ comments, row.id = version.id → SameShape row version
  listed : ∀ version ∈ transaction.writes, version.id ∈ ids comments
  target : ∀ request, transaction.process.resolving = some request → request.target ∈ ids comments
  cleared : ∀ request, transaction.process.resolving = some request →
    ∀ version ∈ transaction.writes, version.id ≠ request.target → version.resolved = false
  holds : ∀ request, transaction.process = .commitResolve request →
    ∃ version ∈ transaction.writes, version.id = request.target
  addresses : ∀ request, transaction.process = .clearOthers request → Addresses comments request
  answersRoot : ∀ reply, transaction.process = .loadRoot reply → Answers comments reply
  answers : ∀ reply root, transaction.process = .insertReply reply root → Answers comments reply
  reaches : ∀ request, transaction.process.resolving = some request → ∀ row ∈ comments,
    row.resolved = true → row.id ≠ request.target → SameThread comments request.target row.id →
    row.id ∈ transaction.process.remaining ∨ ∃ version ∈ transaction.writes, version.id = row.id

/-- The second transaction will clear what the first one has resolved, once it has committed. -/
def Awaits (comments : List Comment) (first second : Transaction) (request : ResolveRequest) : Prop :=
  Secured comments first.process request ∧ request.target ∈ second.process.remaining

structure Compatible (comments : List Comment) (left right : Transaction) : Prop where
  apart : ∀ mine ∈ left.writes, ∀ theirs ∈ right.writes, mine.id ≠ theirs.id
  ordered : ∀ mine theirs, left.process.resolving = some mine → right.process.resolving = some theirs →
    SameThread comments mine.target theirs.target → mine.target ≠ theirs.target →
    Awaits comments left right mine ∨ Awaits comments right left theirs

structure Coherent (state : State) : Prop where
  threaded : Threaded state.comments
  workspaces : ∀ row ∈ state.comments, row.workspaceId = state.workspaceOf row.issueId
  fresh : ∀ row ∈ state.comments, row.id < state.nextComment
  single : SingleResolution state.comments
  sound : ∀ transaction ∈ state.transactions, Sound state.comments transaction
  compatible : ∀ (i j : Nat) (left right : Transaction), i ≠ j → state.transactions[i]? = some left →
    state.transactions[j]? = some right → Compatible state.comments left right

theorem Compatible.symm {comments : List Comment} {left right : Transaction}
    (compatible : Compatible comments left right) : Compatible comments right left := by
  refine ⟨fun mine isMine theirs isTheirs same => compatible.apart theirs isTheirs mine isMine same.symm, ?_⟩
  intro mine theirs isMine isTheirs thread different
  exact (compatible.ordered theirs mine isTheirs isMine thread.symm (Ne.symm different)).symm

theorem compatible_idle {comments : List Comment} {left right : Transaction} (writes : left.writes = [])
    (idle : left.process.resolving = none) : Compatible comments left right := by
  refine ⟨fun mine isMine => ?_, fun mine theirs isMine => ?_⟩
  · rw [writes] at isMine
    contradiction
  · rw [idle] at isMine
    contradiction

section Put

variable {state : State} {index : Nat} {process : Process} {writes : List Comment}

theorem Coherent.replaced (coherent : Coherent state) (sound : Sound state.comments ⟨process, writes⟩)
    (compatible : ∀ (j : Nat) (other : Transaction), j ≠ index → state.transactions[j]? = some other →
      Compatible state.comments ⟨process, writes⟩ other) : Coherent (put state index process writes) := by
  refine ⟨coherent.threaded, coherent.workspaces, coherent.fresh, coherent.single, ?_, ?_⟩
  · intro transaction member
    rcases List.mem_or_eq_of_mem_set member with old | rfl
    · exact coherent.sound transaction old
    · exact sound
  · intro i j left right different isLeft isRight
    rcases ListLib.getElem?_set_some isLeft with ⟨rfl, rfl⟩ | ⟨leftOther, wasLeft⟩
    · rcases ListLib.getElem?_set_some isRight with ⟨rfl, rfl⟩ | ⟨rightOther, wasRight⟩
      · contradiction
      · exact compatible j right rightOther wasRight
    · rcases ListLib.getElem?_set_some isRight with ⟨rfl, rfl⟩ | ⟨rightOther, wasRight⟩
      · exact (compatible i left leftOther wasLeft).symm
      · exact coherent.compatible i j left right different wasLeft wasRight

structure Rests (comments : List Comment) (process : Process) : Prop where
  idle : process.resolving = none
  addresses : ∀ request, process = .clearOthers request → Addresses comments request
  answersRoot : ∀ reply, process = .loadRoot reply → Answers comments reply
  answers : ∀ reply root, process = .insertReply reply root → Answers comments reply

theorem Rests.sound {comments : List Comment} (rests : Rests comments process) :
    Sound comments ⟨process, []⟩ where
  idle _ := rfl
  shapes _ none := nomatch none
  listed _ none := nomatch none
  target _ busy := by rw [rests.idle] at busy; contradiction
  cleared _ _ _ none := nomatch none
  holds request same := by
    have idle := rests.idle
    rw [show process = .commitResolve request from same] at idle
    contradiction
  addresses := rests.addresses
  answersRoot := rests.answersRoot
  answers := rests.answers
  reaches _ busy := by rw [rests.idle] at busy; contradiction

theorem Coherent.continued (coherent : Coherent state) (rests : Rests state.comments process) :
    Coherent (goOn state index process) :=
  coherent.replaced rests.sound fun _ _ _ _ => compatible_idle rfl rests.idle

theorem Coherent.started (coherent : Coherent state) (rests : Rests state.comments process) :
    Coherent (start state process) := by
  refine ⟨coherent.threaded, coherent.workspaces, coherent.fresh, coherent.single, ?_, ?_⟩
  · intro transaction member
    rcases List.mem_append.mp member with old | new
    · exact coherent.sound transaction old
    · rw [List.mem_singleton.mp new]
      exact rests.sound
  · intro i j left right different isLeft isRight
    have idle : ∀ other, Compatible state.comments ⟨process, []⟩ other :=
      fun other => compatible_idle rfl rests.idle
    have new : ∀ (k : Nat) (other : Transaction), (state.transactions ++ [⟨process, []⟩])[k]? = some other →
        state.transactions[k]? = some other ∨ other = ⟨process, []⟩ := by
      intro k other found
      exact ListLib.getElem?_append_some found
    rcases new i left isLeft with wasLeft | rfl
    · rcases new j right isRight with wasRight | rfl
      · exact coherent.compatible i j left right different wasLeft wasRight
      · exact (idle left).symm
    · exact idle right

theorem rests_of_plain {comments : List Comment} (idle : process.resolving = none)
    (addresses : ∀ request, process ≠ .clearOthers request) (root : ∀ reply, process ≠ .loadRoot reply)
    (insert : ∀ reply root, process ≠ .insertReply reply root) : Rests comments process :=
  ⟨idle, fun request same => absurd same (addresses request), fun reply same => absurd same (root reply),
    fun reply root same => absurd same (insert reply root)⟩

end Put

/-- Where a clear starts, every resolution that another transaction of the thread is about to add
is committed already, so that the clear selects it. -/
def ClearsSafely (state : State) : Action → Prop
  | .statement index _ => ∀ transaction request, state.transactions[index]? = some transaction →
      transaction.process = .clearOthers request → ∀ other ∈ state.transactions, ∀ theirs,
      other.process.resolving = some theirs → SameThread state.comments request.target theirs.target →
      request.target ≠ theirs.target → Secured state.comments other.process theirs
  | _ => True

section Resolve

variable {state : State} {index : Nat} {request : ResolveRequest} {rest : List Id} {writes : List Comment}
  {outside : Outside}

theorem mem_othersResolved {comments : List Comment} (threaded : Threaded comments)
    (addresses : Addresses comments request) {row : Comment} (member : row ∈ comments)
    (resolved : row.resolved = true) (other : row.id ≠ request.target)
    (thread : SameThread comments request.target row.id) : row.id ∈ othersResolved comments request := by
  obtain ⟨target, isTarget, same, issue, workspace⟩ := addresses
  rw [← same] at thread
  have below := (threaded.mem_descendants isTarget).mpr ⟨mem_ids.mpr ⟨row, member, rfl⟩, thread⟩
  rw [same, issue, workspace] at below
  exact List.mem_map_of_mem (List.mem_filter.mpr ⟨member, by simp [below, other, resolved]⟩)

theorem not_locked_iff {id : Id} : ¬ lockedByOther state index id ↔
    ∀ (j : Nat) (other : Transaction), j ≠ index → state.transactions[j]? = some other →
      ∀ version ∈ other.writes, version.id ≠ id := by
  simp only [lockedByOther, not_exists, not_and, Prod.forall]
  constructor
  · intro free j other different found version member
    exact free other j (List.mk_mem_zipIdx_iff_getElem?.mpr found) different version member
  · intro free other j listed different version member
    exact free j other different (List.mk_mem_zipIdx_iff_getElem?.mp listed) version member

theorem Coherent.transaction (coherent : Coherent state) {transaction : Transaction}
    (found : state.transactions[index]? = some transaction) : Sound state.comments transaction :=
  coherent.sound transaction (List.mem_of_getElem? found)

theorem Coherent.clearOthers (coherent : Coherent state)
    (found : state.transactions[index]? = some ⟨.clearOthers request, writes⟩)
    (safe : ClearsSafely state (.statement index outside)) :
    Coherent (put state index (.clearing request (othersResolved state.comments request)) writes) := by
  have sound := coherent.transaction found
  have none : writes = [] := sound.idle rfl
  have addresses := sound.addresses request rfl
  subst none
  refine coherent.replaced ?_ ?_
  · refine ⟨nofun, nofun, nofun, ?_, nofun, nofun, nofun, nofun, nofun, ?_⟩
    · rintro _ ⟨⟩
      obtain ⟨row, member, same, -⟩ := addresses
      exact mem_ids.mpr ⟨row, member, same⟩
    · rintro _ ⟨⟩ row member resolved other thread
      exact Or.inl (mem_othersResolved coherent.threaded addresses member resolved other thread)
  · intro j other different isOther
    refine ⟨nofun, ?_⟩
    rintro _ theirs ⟨⟩ isTheirs thread apart
    have secured := safe _ request found rfl other (List.mem_of_getElem? isOther) theirs isTheirs thread apart
    obtain ⟨row, member, same, resolved⟩ := secured.2
    refine Or.inr ⟨secured, ?_⟩
    rw [← same] at thread apart ⊢
    exact mem_othersResolved coherent.threaded addresses member resolved (Ne.symm apart) thread

theorem Coherent.alone (coherent : Coherent state) {process next : Process} {more : List Comment}
    (found : state.transactions[index]? = some ⟨process, writes⟩)
    (resolving : process.resolving = some request) (same : next.resolving = some request)
    (remaining : process.remaining = []) (uncommitted : process ≠ .commitResolve request) {j : Nat}
    {other : Transaction} (different : j ≠ index) (isOther : state.transactions[j]? = some other)
    (apart : ∀ mine ∈ more, ∀ theirs ∈ other.writes, mine.id ≠ theirs.id) :
    Compatible state.comments ⟨next, more⟩ other := by
  refine ⟨apart, fun mine theirs isMine isTheirs thread distinct => ?_⟩
  obtain rfl : request = mine := Option.some.inj (same.symm.trans isMine)
  rcases (coherent.compatible index j _ other (Ne.symm different) found isOther).ordered request theirs
    resolving isTheirs thread distinct with first | second
  · exact absurd first.1.1 uncommitted
  · have waits := second.2
    rw [remaining] at waits
    contradiction

theorem Coherent.clearDone (coherent : Coherent state)
    (found : state.transactions[index]? = some ⟨.clearing request [], writes⟩) :
    Coherent (put state index (.setResolved request) writes) := by
  have sound := coherent.transaction found
  refine coherent.replaced ?_ ?_
  · refine ⟨nofun, sound.shapes, sound.listed, ?_, ?_, nofun, nofun, nofun, nofun, ?_⟩
    · rintro _ ⟨⟩
      exact sound.target request rfl
    · rintro _ ⟨⟩
      exact sound.cleared request rfl
    · rintro _ ⟨⟩ row member resolved other thread
      exact sound.reaches request rfl row member resolved other thread
  · intro j other different isOther
    exact coherent.alone found rfl rfl rfl nofun different isOther
      (coherent.compatible index j _ other (Ne.symm different) found isOther).apart

theorem shape_unresolve (row : Comment) : SameShape row row.unresolve := ⟨rfl, rfl, rfl, rfl⟩

theorem shape_resolve (row : Comment) (now : Nat) : SameShape row (row.resolve request now) :=
  ⟨rfl, rfl, rfl, rfl⟩

theorem Coherent.reached (coherent : Coherent state) {id : Id} {more : List Comment}
    (found : state.transactions[index]? = some ⟨.clearing request rest, writes⟩)
    (free : ¬ lockedByOther state index id)
    (versions : ∀ version ∈ more, ∃ row ∈ state.comments, row.id = id ∧ version = row.unresolve)
    (all : ∀ row ∈ state.comments, row.id = id → row.resolved = true → ∃ version ∈ more, version.id = id) :
    Coherent (put state index (.clearing request (rest.erase id)) (writes ++ more)) := by
  have sound := coherent.transaction found
  have unlocked := not_locked_iff.mp free
  refine coherent.replaced ?_ ?_
  · refine ⟨nofun, ?_, ?_, ?_, ?_, nofun, nofun, nofun, nofun, ?_⟩
    · intro version member row listed same
      rcases List.mem_append.mp member with old | new
      · exact sound.shapes version old row listed same
      · obtain ⟨source, isSource, -, rfl⟩ := versions version new
        rw [List.inj_on_of_nodup_map coherent.threaded.distinct listed isSource same]
        exact shape_unresolve source
    · intro version member
      rcases List.mem_append.mp member with old | new
      · exact sound.listed version old
      · obtain ⟨source, isSource, -, rfl⟩ := versions version new
        exact mem_ids.mpr ⟨source, isSource, rfl⟩
    · rintro _ ⟨⟩
      exact sound.target request rfl
    · rintro _ ⟨⟩ version member other
      rcases List.mem_append.mp member with old | new
      · exact sound.cleared request rfl version old other
      · obtain ⟨source, -, -, rfl⟩ := versions version new
        rfl
    · rintro _ ⟨⟩ row member resolved other thread
      by_cases here : row.id = id
      · obtain ⟨version, isVersion, same⟩ := all row member here resolved
        exact Or.inr ⟨version, List.mem_append_right _ isVersion, same.trans here.symm⟩
      · rcases sound.reaches request rfl row member resolved other thread with waiting | ⟨version, done, same⟩
        · exact Or.inl ((List.mem_erase_of_ne here).mpr waiting)
        · exact Or.inr ⟨version, List.mem_append_left _ done, same⟩
  · intro j other different isOther
    have before := coherent.compatible index j _ other (Ne.symm different) found isOther
    refine ⟨?_, ?_⟩
    · intro mine isMine theirs isTheirs
      rcases List.mem_append.mp isMine with old | new
      · exact before.apart mine old theirs isTheirs
      · obtain ⟨source, -, same, rfl⟩ := versions mine new
        exact fun clash => unlocked j other different isOther theirs isTheirs (clash.symm.trans same)
    · rintro _ theirs ⟨⟩ isTheirs thread distinct
      rcases before.ordered request theirs rfl isTheirs thread distinct with first | second
      · exact absurd first.1.1 nofun
      · refine Or.inr ⟨second.1, ?_⟩
        -- the awaited row is locked, so it is not the one that was reached
        obtain ⟨version, isVersion, same⟩ := (coherent.transaction isOther).holds theirs second.1.1
        have elsewhere := unlocked j other different isOther version isVersion
        rw [same] at elsewhere
        exact (List.mem_erase_of_ne elsewhere).mpr second.2

theorem Coherent.rowCleared (coherent : Coherent state) (id : Id)
    (found : state.transactions[index]? = some ⟨.clearing request rest, writes⟩) :
    Coherent (clearRow state index request rest writes id) := by
  unfold clearRow
  split
  · exact coherent
  · rename_i free
    have passed : (∀ row ∈ state.comments, row.id = id → row.resolved = true → False) →
        Coherent (put state index (.clearing request (rest.erase id)) writes) := by
      intro none
      have reached : Coherent (put state index (.clearing request (rest.erase id)) (writes ++ [])) :=
        coherent.reached found free nofun fun row member same resolved =>
          (none row member same resolved).elim
      rwa [List.append_nil] at reached
    split
    · rename_i missing
      refine passed fun row member same _ => ?_
      rw [← same, getComment_eq coherent.threaded.distinct member] at missing
      contradiction
    · rename_i row isRow
      obtain ⟨member, same⟩ := getComment_mem isRow
      split
      · refine coherent.reached found free ?_ ?_
        · intro version isVersion
          exact ⟨row, member, same, List.mem_singleton.mp isVersion⟩
        · intro other listed sameId resolved
          exact ⟨row.unresolve, List.mem_singleton_self _, same⟩
      · rename_i unresolved
        refine passed fun other listed sameId resolved => unresolved ?_
        rwa [List.inj_on_of_nodup_map coherent.threaded.distinct member listed (same.trans sameId.symm)]

theorem Coherent.setResolved (coherent : Coherent state) {row : Comment}
    (found : state.transactions[index]? = some ⟨.setResolved request, writes⟩)
    (free : ¬ lockedByOther state index request.target)
    (isRow : getComment state.comments request.target = some row) :
    Coherent (put state index (.commitResolve request) (writes ++ [row.resolve request outside.now])) := by
  have sound := coherent.transaction found
  have unlocked := not_locked_iff.mp free
  obtain ⟨member, same⟩ := getComment_mem isRow
  refine coherent.replaced ?_ ?_
  · refine ⟨nofun, ?_, ?_, ?_, ?_, ?_, nofun, nofun, nofun, ?_⟩
    · intro version isVersion other listed sameId
      rcases List.mem_append.mp isVersion with old | new
      · exact sound.shapes version old other listed sameId
      · rw [List.mem_singleton.mp new] at sameId ⊢
        rw [List.inj_on_of_nodup_map coherent.threaded.distinct listed member sameId]
        exact shape_resolve row _
    · intro version isVersion
      rcases List.mem_append.mp isVersion with old | new
      · exact sound.listed version old
      · rw [List.mem_singleton.mp new]
        exact mem_ids.mpr ⟨row, member, rfl⟩
    · rintro _ ⟨⟩
      exact sound.target request rfl
    · rintro _ ⟨⟩ version isVersion other
      rcases List.mem_append.mp isVersion with old | new
      · exact sound.cleared request rfl version old other
      · rw [List.mem_singleton.mp new] at other
        exact absurd same other
    · rintro _ ⟨⟩
      exact ⟨row.resolve request outside.now, by simp, same⟩
    · rintro _ ⟨⟩ other listed resolved distinct thread
      rcases sound.reaches request rfl other listed resolved distinct thread with none | ⟨version, done, sameId⟩
      · contradiction
      · exact Or.inr ⟨version, List.mem_append_left _ done, sameId⟩
  · intro j other different isOther
    refine coherent.alone found rfl rfl rfl nofun different isOther fun mine isMine theirs isTheirs => ?_
    rcases List.mem_append.mp isMine with old | new
    · exact (coherent.compatible index j _ other (Ne.symm different) found isOther).apart mine old theirs isTheirs
    · rw [List.mem_singleton.mp new]
      exact fun clash => unlocked j other different isOther theirs isTheirs (clash.symm.trans same)

end Resolve

theorem SameShape.across {row left right : Comment} (first : SameShape row left) (second : SameShape row right) :
    SameShape left right :=
  ⟨second.id.trans first.id.symm, second.parentId.trans first.parentId.symm,
    second.issueId.trans first.issueId.symm, second.workspaceId.trans first.workspaceId.symm⟩

structure Extends (comments next : List Comment) : Prop where
  kept : ∀ row ∈ comments, ∃ later ∈ next, SameShape row later
  old : ∀ later ∈ next, later.id ∈ ids comments → ∃ row ∈ comments, SameShape row later
  threads : ∀ left ∈ ids comments, ∀ right ∈ ids comments,
    SameThread next left right ↔ SameThread comments left right
  resolvedOld : ∀ later ∈ next, later.resolved = true → later.id ∈ ids comments

theorem extension_map {comments : List Comment} {change : Comment → Comment}
    (shape : ∀ row ∈ comments, SameShape row (change row)) : Extends comments (comments.map change) := by
  have back : ∀ later ∈ comments.map change, ∃ row ∈ comments, SameShape row later := by
    intro later member
    obtain ⟨row, listed, rfl⟩ := List.mem_map.mp member
    exact ⟨row, listed, shape row listed⟩
  refine ⟨fun row member => ⟨change row, List.mem_map_of_mem member, shape row member⟩,
    fun later member _ => back later member, fun _ _ _ _ => sameThread_congr (parentOf_map shape), ?_⟩
  intro later member _
  obtain ⟨row, listed, same⟩ := back later member
  exact mem_ids.mpr ⟨row, listed, same.id.symm⟩

section Comments

variable {comments next : List Comment} {transaction : Transaction}

theorem Extends.listed (extension : Extends comments next) {id : Id} (member : id ∈ ids comments) :
    id ∈ ids next := by
  obtain ⟨row, listed, rfl⟩ := mem_ids.mp member
  obtain ⟨later, isLater, same⟩ := extension.kept row listed
  exact mem_ids.mpr ⟨later, isLater, same.id⟩

theorem Extends.addresses {request : ResolveRequest} (extension : Extends comments next)
    (addresses : Addresses comments request) : Addresses next request := by
  obtain ⟨row, listed, id, issue, workspace⟩ := addresses
  obtain ⟨later, isLater, same⟩ := extension.kept row listed
  exact ⟨later, isLater, same.id.trans id, same.issueId.trans issue, same.workspaceId.trans workspace⟩

theorem Extends.answers {reply : Reply} (extension : Extends comments next) (answers : Answers comments reply) :
    Answers next reply := by
  intro parent linked
  obtain ⟨row, listed, id, issue⟩ := answers parent linked
  obtain ⟨later, isLater, same⟩ := extension.kept row listed
  exact ⟨later, isLater, same.id.trans id, same.issueId.trans issue⟩

def Foreseen (comments next : List Comment) (transaction : Transaction) : Prop :=
  ∀ request, transaction.process.resolving = some request → ∀ later ∈ next, later.resolved = true →
    later.id ≠ request.target → SameThread comments request.target later.id →
    (∃ row ∈ comments, row.id = later.id ∧ row.resolved = true) ∨ later.id ∈ transaction.process.remaining

theorem Sound.extended (sound : Sound comments transaction) (extension : Extends comments next)
    (foreseen : Foreseen comments next transaction) : Sound next transaction where
  idle := sound.idle
  shapes version member later listed same := by
    obtain ⟨row, isRow, shape⟩ := extension.old later listed (same ▸ sound.listed version member)
    exact shape.across (sound.shapes version member row isRow (shape.id.symm.trans same))
  listed version member := extension.listed (sound.listed version member)
  target request resolving := extension.listed (sound.target request resolving)
  cleared := sound.cleared
  holds := sound.holds
  addresses request waits := extension.addresses (sound.addresses request waits)
  answersRoot reply waits := extension.answers (sound.answersRoot reply waits)
  answers reply root waits := extension.answers (sound.answers reply root waits)
  reaches request resolving later listed resolved other thread := by
    have old := extension.resolvedOld later listed resolved
    have before := (extension.threads _ (sound.target request resolving) _ old).mp thread
    rcases foreseen request resolving later listed resolved other before with ⟨row, isRow, same, was⟩ | waits
    · rw [← same] at before other ⊢
      exact sound.reaches request resolving row isRow was other before
    · exact Or.inl waits

def Held (comments next : List Comment) (transaction : Transaction) : Prop :=
  ∀ version ∈ transaction.writes, ∀ row ∈ comments, row.id = version.id → row.resolved = true →
    ∃ later ∈ next, later.id = row.id ∧ later.resolved = true

theorem Awaits.extended {first second : Transaction} {request : ResolveRequest} (sound : Sound comments first)
    (held : Held comments next first) (awaits : Awaits comments first second request) :
    Awaits next first second request := by
  obtain ⟨⟨commits, row, listed, same, resolved⟩, waits⟩ := awaits
  obtain ⟨version, isVersion, sameVersion⟩ := sound.holds request commits
  obtain ⟨later, isLater, sameLater, still⟩ :=
    held version isVersion row listed (same.trans sameVersion.symm) resolved
  exact ⟨⟨commits, later, isLater, sameLater.trans same, still⟩, waits⟩

theorem Coherent.recommented {state : State} {nextComment : Id} (coherent : Coherent state)
    (threaded : Threaded next) (workspaces : ∀ row ∈ next, row.workspaceId = state.workspaceOf row.issueId)
    (fresh : ∀ row ∈ next, row.id < nextComment) (single : SingleResolution next)
    (extension : Extends state.comments next)
    (foreseen : ∀ transaction ∈ state.transactions, Foreseen state.comments next transaction)
    (held : ∀ transaction ∈ state.transactions, Held state.comments next transaction) :
    Coherent { state with comments := next, nextComment := nextComment } := by
  refine ⟨threaded, workspaces, fresh, single, ?_, ?_⟩
  · intro transaction member
    exact (coherent.sound transaction member).extended extension (foreseen transaction member)
  · intro i j left right different isLeft isRight
    have leftMember := List.mem_of_getElem? isLeft
    have rightMember := List.mem_of_getElem? isRight
    have leftSound := coherent.sound left leftMember
    have rightSound := coherent.sound right rightMember
    have before := coherent.compatible i j left right different isLeft isRight
    refine ⟨before.apart, fun mine theirs isMine isTheirs thread distinct => ?_⟩
    have sameThread := (extension.threads _ (leftSound.target mine isMine) _
      (rightSound.target theirs isTheirs)).mp thread
    rcases before.ordered mine theirs isMine isTheirs sameThread distinct with first | second
    · exact Or.inl (first.extended leftSound (held left leftMember))
    · exact Or.inr (second.extended rightSound (held right rightMember))

end Comments

section Changes

variable {state : State} {index : Nat} {request : ResolveRequest} {writes : List Comment}

theorem mem_goOn {process : Process} {transaction : Transaction}
    (member : transaction ∈ (goOn state index process).transactions) :
    transaction = ⟨process, []⟩ ∨ ∃ j, j ≠ index ∧ state.transactions[j]? = some transaction := by
  obtain ⟨j, found⟩ := List.mem_iff_getElem?.mp member
  rcases ListLib.getElem?_set_some found with ⟨-, same⟩ | ⟨different, old⟩
  · exact Or.inl same
  · exact Or.inr ⟨j, different, old⟩

theorem rests_returned (comments : List Comment) : Rests comments .returned :=
  rests_of_plain rfl nofun nofun nofun

theorem written_cases (writes : List Comment) (row : Comment) :
    (written writes row = row ∧ ∀ version ∈ writes, version.id ≠ row.id) ∨
      ∃ version ∈ writes, version.id = row.id ∧ written writes row = version := by
  unfold written
  cases found : writes.find? fun version => version.id = row.id with
  | none => exact Or.inl ⟨rfl, by simpa using List.find?_eq_none.mp found⟩
  | some version =>
      exact Or.inr ⟨version, List.mem_of_find?_eq_some found, by simpa using List.find?_some found, rfl⟩

theorem Sound.commit_resolved (sound : Sound state.comments ⟨.commitResolve request, writes⟩) {row : Comment}
    (resolved : (written writes row).resolved = true) (other : row.id ≠ request.target) :
    written writes row = row ∧ ∀ version ∈ writes, version.id ≠ row.id := by
  rcases written_cases writes row with kept | ⟨version, member, same, changed⟩
  · exact kept
  · rw [changed, sound.cleared request rfl version member (same.trans_ne other)] at resolved
    contradiction

theorem Coherent.commitResolve (coherent : Coherent state)
    (found : state.transactions[index]? = some ⟨.commitResolve request, writes⟩) :
    Coherent (goOn { state with comments := commitWrites writes state.comments } index .returned) := by
  have sound := coherent.transaction found
  have shape : ∀ row ∈ state.comments, SameShape row (written writes row) := by
    intro row member
    rcases written_cases writes row with ⟨same, -⟩ | ⟨version, isVersion, same, changed⟩
    · rw [same]
      exact ⟨rfl, rfl, rfl, rfl⟩
    · exact changed ▸ sound.shapes version isVersion row member same.symm
  have extension : Extends state.comments (commitWrites writes state.comments) := extension_map shape
  -- a resolved comment of the thread would have been cleared
  have beside : ∀ row ∈ state.comments, (written writes row).resolved = true → row.id ≠ request.target →
      ¬ SameThread state.comments request.target row.id := by
    intro row member resolved other thread
    obtain ⟨same, unwritten⟩ := sound.commit_resolved resolved other
    rw [same] at resolved
    rcases sound.reaches request rfl row member resolved other thread with none | ⟨version, isVersion, sameId⟩
    · contradiction
    · exact unwritten version isVersion sameId
  have dropped : Coherent (goOn state index .returned) := coherent.continued (rests_returned _)
  refine dropped.recommented (coherent.threaded.map shape) ?_ ?_ ?_ extension ?_ ?_
  · intro later member
    obtain ⟨row, listed, rfl⟩ := List.mem_map.mp member
    rw [(shape row listed).workspaceId, (shape row listed).issueId]
    exact coherent.workspaces row listed
  · intro later member
    obtain ⟨row, listed, rfl⟩ := List.mem_map.mp member
    rw [(shape row listed).id]
    exact coherent.fresh row listed
  · intro left isLeft right isRight leftResolved rightResolved thread
    obtain ⟨leftRow, leftListed, rfl⟩ := List.mem_map.mp isLeft
    obtain ⟨rightRow, rightListed, rfl⟩ := List.mem_map.mp isRight
    rw [(shape leftRow leftListed).id, (shape rightRow rightListed).id,
      commitWrites, sameThread_congr (parentOf_map shape)] at thread
    by_cases leftTarget : leftRow.id = request.target
    · by_cases rightTarget : rightRow.id = request.target
      · rw [List.inj_on_of_nodup_map coherent.threaded.distinct leftListed rightListed
          (leftTarget.trans rightTarget.symm)]
      · exact absurd (leftTarget ▸ thread) (beside rightRow rightListed rightResolved rightTarget)
    · by_cases rightTarget : rightRow.id = request.target
      · exact absurd (rightTarget ▸ thread.symm) (beside leftRow leftListed leftResolved leftTarget)
      · obtain ⟨leftSame, -⟩ := sound.commit_resolved leftResolved leftTarget
        obtain ⟨rightSame, -⟩ := sound.commit_resolved rightResolved rightTarget
        rw [leftSame] at leftResolved
        rw [rightSame] at rightResolved
        rw [leftSame, rightSame]
        exact coherent.single leftRow leftListed rightRow rightListed leftResolved rightResolved thread
  · intro transaction member theirs resolving later isLater resolved other thread
    obtain ⟨row, listed, rfl⟩ := List.mem_map.mp isLater
    rw [(shape row listed).id] at other thread ⊢
    by_cases isTarget : row.id = request.target
    · rcases mem_goOn member with rfl | ⟨j, different, isOther⟩
      · contradiction
      · rw [isTarget] at other thread ⊢
        rcases (coherent.compatible index j _ transaction (Ne.symm different) found isOther).ordered request
          theirs rfl resolving thread.symm other with first | second
        · exact Or.inr first.2
        · have none := second.2
          contradiction
    · obtain ⟨same, -⟩ := sound.commit_resolved resolved isTarget
      rw [same] at resolved
      exact Or.inl ⟨row, listed, rfl, resolved⟩
  · intro transaction member version isVersion row listed same resolved
    rcases mem_goOn member with rfl | ⟨j, different, isOther⟩
    · contradiction
    · refine ⟨written writes row, List.mem_map_of_mem listed, (shape row listed).id, ?_⟩
      rcases written_cases writes row with ⟨kept, -⟩ | ⟨mine, isMine, sameMine, -⟩
      · rw [kept]
        exact resolved
      · have apart := (coherent.compatible index j _ transaction (Ne.symm different) found isOther).apart
          mine isMine version isVersion
        exact absurd (sameMine.trans same) apart

theorem Coherent.unresolved (coherent : Coherent state) {id : Id} (free : ¬ lockedByOther state index id) :
    Coherent (goOn { state with comments := updateComment id Comment.unresolve state.comments } index
      .returned) := by
  have shape : ∀ row ∈ state.comments, SameShape row (if row.id = id then row.unresolve else row) := by
    intro row _
    split <;> exact ⟨rfl, rfl, rfl, rfl⟩
  have same : updateComment id Comment.unresolve state.comments =
      state.comments.map fun row => if row.id = id then row.unresolve else row := by
    simp [updateComment, TableLib.updateWhere]
  have stays : ∀ row : Comment, (if row.id = id then row.unresolve else row).resolved = true →
      (if row.id = id then row.unresolve else row) = row ∧ row.resolved = true := by
    intro row resolved
    split at resolved
    · contradiction
    · rename_i other
      exact ⟨if_neg other, resolved⟩
  have dropped : Coherent (goOn state index .returned) := coherent.continued (rests_returned _)
  rw [same]
  refine dropped.recommented (coherent.threaded.map shape) ?_ ?_ ?_ (extension_map shape) ?_ ?_
  · intro later member
    obtain ⟨row, listed, rfl⟩ := List.mem_map.mp member
    rw [(shape row listed).workspaceId, (shape row listed).issueId]
    exact coherent.workspaces row listed
  · intro later member
    obtain ⟨row, listed, rfl⟩ := List.mem_map.mp member
    rw [(shape row listed).id]
    exact coherent.fresh row listed
  · intro left isLeft right isRight leftResolved rightResolved thread
    obtain ⟨leftRow, leftListed, rfl⟩ := List.mem_map.mp isLeft
    obtain ⟨rightRow, rightListed, rfl⟩ := List.mem_map.mp isRight
    obtain ⟨leftSame, leftWas⟩ := stays leftRow leftResolved
    obtain ⟨rightSame, rightWas⟩ := stays rightRow rightResolved
    rw [sameThread_congr (parentOf_map shape), leftSame, rightSame] at thread
    rw [leftSame, rightSame]
    exact coherent.single leftRow leftListed rightRow rightListed leftWas rightWas thread
  · intro transaction _ theirs _ later isLater resolved _ _
    obtain ⟨row, listed, rfl⟩ := List.mem_map.mp isLater
    obtain ⟨sameRow, was⟩ := stays row resolved
    exact Or.inl ⟨row, listed, by rw [sameRow], was⟩
  · intro transaction member version isVersion row listed sameId resolved
    rcases mem_goOn member with rfl | ⟨j, different, isOther⟩
    · contradiction
    · have other : row.id ≠ id := by
        rw [sameId]
        exact not_locked_iff.mp free j transaction different isOther version isVersion
      exact ⟨row, List.mem_map.mpr ⟨row, listed, if_neg other⟩, rfl, resolved⟩

theorem rests_afterReply (comments : List Comment) (root : Option Comment) : Rests comments (afterReply root) := by
  unfold afterReply
  split
  · exact rests_returned comments
  · split
    · exact rests_of_plain rfl nofun nofun nofun
    · exact rests_returned comments

theorem Coherent.newReply (coherent : Coherent state) {reply : Reply} (answers : Answers state.comments reply) :
    NewReply state.comments ⟨state.nextComment, reply.issueId, state.workspaceOf reply.issueId,
      reply.parentId, none, none, none⟩ := by
  refine ⟨fun listed => ?_, fun upper linked => ?_⟩
  · obtain ⟨row, member, same⟩ := mem_ids.mp listed
    have below := coherent.fresh row member
    rw [same] at below
    exact Nat.lt_irrefl _ below
  · obtain ⟨row, member, same, issue⟩ := answers upper linked
    exact ⟨row, member, same, issue, by rw [coherent.workspaces row member, issue]⟩

theorem Coherent.replied (coherent : Coherent state) {reply : Reply} {root : Option Comment}
    (answers : Answers state.comments reply) :
    Coherent (goOn (insertReply state reply) index (afterReply root)) := by
  have new := coherent.newReply answers
  have listed : ∀ later ∈ (insertReply state reply).comments, later.resolved = true →
      later ∈ state.comments := by
    intro later member resolved
    rcases List.mem_append.mp member with old | isNew
    · exact old
    · rw [List.mem_singleton.mp isNew] at resolved
      contradiction
  have dropped : Coherent (goOn state index (afterReply root)) :=
    coherent.continued (rests_afterReply _ root)
  refine dropped.recommented (coherent.threaded.append new) ?_ ?_ ?_ ?_ ?_ ?_
  · intro row member
    rcases List.mem_append.mp member with old | isNew
    · exact coherent.workspaces row old
    · rw [List.mem_singleton.mp isNew]
      rfl
  · intro row member
    rcases List.mem_append.mp member with old | isNew
    · exact Nat.lt_succ_of_lt (coherent.fresh row old)
    · rw [List.mem_singleton.mp isNew]
      exact Nat.lt_succ_self _
  · intro left isLeft right isRight leftResolved rightResolved thread
    have leftOld := listed left isLeft leftResolved
    have rightOld := listed right isRight rightResolved
    have before := (coherent.threaded.sameThread_append new (mem_ids.mpr ⟨left, leftOld, rfl⟩)
      (mem_ids.mpr ⟨right, rightOld, rfl⟩)).mp thread
    exact coherent.single left leftOld right rightOld leftResolved rightResolved before
  · refine ⟨fun row member => ⟨row, List.mem_append_left _ member, rfl, rfl, rfl, rfl⟩, ?_,
      fun left isLeft right isRight => coherent.threaded.sameThread_append new isLeft isRight, ?_⟩
    · intro later member old
      rcases List.mem_append.mp member with isOld | isNew
      · exact ⟨later, isOld, rfl, rfl, rfl, rfl⟩
      · rw [List.mem_singleton.mp isNew] at old
        exact absurd old new.fresh
    · intro later member resolved
      exact mem_ids.mpr ⟨later, listed later member resolved, rfl⟩
  · intro transaction _ theirs _ later isLater resolved _ _
    exact Or.inl ⟨later, listed later isLater resolved, rfl, resolved⟩
  · intro transaction _ version _ row member _ resolved
    exact ⟨row, List.mem_append_left _ member, rfl, resolved⟩

theorem Coherent.ran (coherent : Coherent state) {process : Process} {outside : Outside}
    (found : state.transactions[index]? = some ⟨process, writes⟩)
    (safe : ClearsSafely state (.statement index outside)) :
    Coherent (statement state index outside writes process) := by
  have sound := coherent.transaction found
  have ends : Coherent (goOn state index .returned) := coherent.continued (rests_returned _)
  cases process with
  | loadResolve comment workspace actorType actorId =>
      refine coherent.continued ?_
      unfold loadedResolve
      split
      · exact rests_returned _
      · rename_i row isRow
        refine ⟨rfl, ?_, nofun, nofun⟩
        rintro _ ⟨⟩
        exact ⟨row, List.mem_of_find?_eq_some isRow, rfl, rfl, rfl⟩
  | clearOthers request => exact coherent.clearOthers found safe
  | clearing request rest =>
      cases rest with
      | nil => exact coherent.clearDone found
      | cons first others =>
          simp only [statement]
          split
          · exact coherent
          · exact coherent.rowCleared _ found
  | setResolved request =>
      simp only [statement]
      split
      · exact coherent
      · rename_i free
        split
        · exact ends
        · rename_i row isRow
          exact coherent.setResolved found free isRow
  | commitResolve request => exact coherent.commitResolve found
  | loadUnresolve comment workspace =>
      simp only [statement]
      split
      · exact ends
      · exact coherent.continued (rests_of_plain rfl nofun nofun nofun)
  | unresolve comment =>
      simp only [statement]
      split
      · exact coherent
      · rename_i free
        exact coherent.unresolved free
  | loadParent reply =>
      simp only [statement]
      split
      · rename_i top
        refine coherent.continued ⟨rfl, nofun, nofun, ?_⟩
        rintro _ _ ⟨⟩ parent linked
        rw [top] at linked
        contradiction
      · rename_i parent linked
        split
        · exact ends
        · rename_i row isRow
          split
          · rename_i sameIssue
            obtain ⟨member, same⟩ := getComment_mem isRow
            refine coherent.continued ⟨rfl, nofun, ?_, nofun⟩
            rintro _ ⟨⟩ wanted isWanted
            rw [linked, Option.some.injEq] at isWanted
            exact ⟨row, member, same.trans isWanted, sameIssue⟩
          · exact ends
  | loadRoot reply =>
      refine coherent.continued ⟨rfl, nofun, nofun, ?_⟩
      rintro _ _ ⟨⟩
      exact sound.answersRoot reply rfl
  | insertReply reply root => exact coherent.replied (sound.answers reply root rfl)
  | returned => exact coherent

theorem step_coherent (state : State) (action : Action) (coherent : Coherent state)
    (safe : ClearsSafely state action) : Coherent (step state action) := by
  cases action with
  | resolveComment comment workspace actorType actorId =>
      exact coherent.started (rests_of_plain rfl nofun nofun nofun)
  | unresolveComment comment workspace => exact coherent.started (rests_of_plain rfl nofun nofun nofun)
  | createComment reply => exact coherent.started (rests_of_plain rfl nofun nofun nofun)
  | statement index outside =>
      simp only [step]
      split
      · exact coherent
      · rename_i transaction found
        exact coherent.ran found safe
  | rollback index => exact coherent.continued (rests_returned _)

end Changes

structure ResolvedForest (state : State) : Prop where
  threaded : Threaded state.comments
  workspaces : ∀ row ∈ state.comments, row.workspaceId = state.workspaceOf row.issueId
  fresh : ∀ row ∈ state.comments, row.id < state.nextComment
  single : SingleResolution state.comments
  quiet : state.transactions = []

theorem ResolvedForest.coherent {state : State} (forest : ResolvedForest state) : Coherent state := by
  refine ⟨forest.threaded, forest.workspaces, forest.fresh, forest.single, ?_, ?_⟩
  · intro transaction member
    rw [forest.quiet] at member
    contradiction
  · intro i j left right _ isLeft
    rw [forest.quiet] at isLeft
    simp at isLeft

theorem clearsSafely_alone {state : State} {transaction : Transaction}
    (alone : state.transactions = [transaction]) (action : Action) : ClearsSafely state action := by
  cases action with
  | statement index outside =>
      intro mine request found clears other member theirs resolving
      rw [alone] at found member
      obtain rfl := List.mem_singleton.mp (List.mem_of_getElem? found)
      rw [List.mem_singleton.mp member, clears] at resolving
      contradiction
  | _ => trivial

def questionAndReply : State where
  workspaceOf _ := 1
  comments := [⟨0, 5, 1, none, none, none, none⟩, ⟨1, 5, 1, some 0, none, none, none⟩]
  nextComment := 2
  transactions := []

theorem questionAndReply_forest : ResolvedForest questionAndReply where
  threaded := by
    refine ⟨by decide, fun id => ?_, by decide⟩
    have top : parentOf questionAndReply.comments 0 = none := by decide
    refine ⟨id, fun upper above => ?_⟩
    obtain ⟨row, member, -, linked⟩ := parentOf_some above
    have upperRoot : upper = 0 := by
      rcases List.mem_cons.mp member with rfl | later
      · contradiction
      · rw [List.mem_singleton.mp later] at linked
        exact (Option.some.inj linked).symm
    exact ForestLib.acc_of_rooted (upperRoot ▸ top) .refl
  workspaces := by decide
  fresh := by decide
  single := by
    intro left isLeft right _ leftResolved
    have none : ∀ row ∈ questionAndReply.comments, row.resolved = false := by decide
    rw [none left isLeft] at leftResolved
    contradiction
  quiet := rfl

def statementOf (index : Nat) : Action := .statement index ⟨0, 0⟩

def resolveRoot : List Action := .resolveComment 0 1 "member" 7 :: List.replicate 5 (statementOf 0)

def resolveBoth : List Action :=
  [.resolveComment 0 1 "member" 7, .resolveComment 1 1 "member" 8] ++
    (List.replicate 5 [statementOf 0, statementOf 1]).flatten

end MulticaOS.Resolutions
