import MulticaOS.Issues.Updates
import MulticaOS.Lib.Forests
import MulticaOS.Lib.Runs

/-!
The parent relation under requests executed one after another.  Both handlers look for the
moved issue among the first ten ancestors of its new parent, and only there.
-/

namespace MulticaOS.Issues

inductive Command where
  | create (directory : Directory) (id : Nat) (issue : Issue) (fails : Bool)
  | update (directory : Directory) (workspaceId id : Nat) (body : UpdateIssueRequest) (fails : Bool)
  | batch (directory : Directory) (workspaceId : Nat) (issueIds : List (String × Bool))
      (body : UpdateIssueRequest)

def applied (table : Table) : Except Refusal Table → Table
  | .ok next => next
  | .error _ => table

def execute (parsers : Parsers) (table : Table) : Command → Table
  | .create directory id issue fails => applied table (createIssue directory table id issue fails)
  | .update directory workspaceId id body fails =>
      applied table (updateIssue parsers directory table workspaceId id body fails)
  | .batch directory workspaceId issueIds body =>
      applied table (batchUpdateIssues parsers directory table workspaceId issueIds body)

/-- A command issue by issue: a batch commits every one of its updates on its own. -/
inductive Action where
  | create (directory : Directory) (id : Nat) (issue : Issue) (fails : Bool)
  | update (directory : Directory) (workspaceId id : Nat) (body : UpdateIssueRequest) (fails : Bool)
  | round (directory : Directory) (workspaceId : Nat) (issueId : String) (body : UpdateIssueRequest)
      (fails : Bool)

def Command.actions : Command → List Action
  | .create directory id issue fails => [.create directory id issue fails]
  | .update directory workspaceId id body fails => [.update directory workspaceId id body fails]
  | .batch directory workspaceId issueIds body =>
      if body.hasMutation then
        match validateEnums body with
        | .ok _ => issueIds.map fun (issueId, fails) => .round directory workspaceId issueId body fails
        | .error _ => []
      else []

def commit (parsers : Parsers) (table : Table) : Action → Table
  | .create directory id issue fails => applied table (createIssue directory table id issue fails)
  | .update directory workspaceId id body fails =>
      applied table (updateIssue parsers directory table workspaceId id body fails)
  | .round directory workspaceId issueId body fails =>
      batchUpdateIssue parsers directory table workspaceId issueId body fails

theorem rounds_eq (parsers : Parsers) (directory : Directory) (workspaceId : Nat)
    (issueIds : List (String × Bool)) (body : UpdateIssueRequest) (table : Table) :
    RunLib.run (commit parsers) table
        (issueIds.map fun (issueId, fails) => .round directory workspaceId issueId body fails) =
      issueIds.foldl (fun table (issueId, fails) =>
        batchUpdateIssue parsers directory table workspaceId issueId body fails) table := by
  induction issueIds generalizing table with
  | nil => rfl
  | cons head rest ih => exact ih _

theorem execute_eq (parsers : Parsers) (table : Table) (command : Command) :
    execute parsers table command = RunLib.run (commit parsers) table command.actions := by
  cases command with
  | create directory id issue fails => rfl
  | update directory workspaceId id body fails => rfl
  | batch directory workspaceId issueIds body =>
      simp only [execute, batchUpdateIssues, Command.actions]
      cases mutates : body.hasMutation with
      | false => cases issueIds <;> rfl
      | true =>
          cases issueIds with
          | nil => cases validateEnums body <;> rfl
          | cons head rest =>
              cases valid : validateEnums body with
              | error refusal => rfl
              | ok _ => exact (rounds_eq parsers directory workspaceId (head :: rest) body table).symm

theorem executes_eq (parsers : Parsers) (table : Table) (commands : List Command) :
    RunLib.run (execute parsers) table commands =
      RunLib.run (commit parsers) table (commands.flatMap Command.actions) := by
  induction commands generalizing table with
  | nil => rfl
  | cons command rest ih =>
      rw [RunLib.run_cons, List.flatMap_cons, RunLib.run_append, ih, execute_eq]

def parentOf (table : Table) (id : Nat) : Option Nat := (table id).bind Issue.parentIssueId

def statement (parsers : Parsers) (table : Table) : Action → Option (Nat × UpdateIssueParams)
  | .create _ _ _ _ => none
  | .update directory workspaceId id body fails =>
      match getIssueInWorkspace table id workspaceId with
      | none => none
      | some prev =>
          match prepareUpdate parsers directory table id prev body with
          | .error _ => none
          | .ok params => if fails then none else some (id, params)
  | .round directory workspaceId issueId body fails =>
      match parsers.parseUUID issueId with
      | none => none
      | some id =>
          match getIssueInWorkspace table id workspaceId with
          | none => none
          | some prev =>
              match updateParams parsers directory table id prev body with
              | .error _ => none
              | .ok params => if fails then none else some (id, params)

theorem getIssueInWorkspace_some {table : Table} {id workspaceId : Nat} {issue : Issue}
    (found : getIssueInWorkspace table id workspaceId = some issue) : table id = some issue :=
  (Option.filter_eq_some_iff.mp found).1

theorem getIssueInWorkspace_workspace {table : Table} {id workspaceId : Nat} {issue : Issue}
    (found : getIssueInWorkspace table id workspaceId = some issue) : issue.workspaceId = workspaceId :=
  of_decide_eq_true (Option.filter_eq_some_iff.mp found).2

def Action.request : Action → Option (Nat × UpdateIssueRequest)
  | .create _ _ _ _ => none
  | .update _ workspaceId _ body _ | .round _ workspaceId _ body _ => some (workspaceId, body)

structure Created (table next : Table) (id : Nat) (issue : Issue) : Prop where
  fresh : table id = none
  next : next = Function.update table id (some issue)
  parent : ∀ parent, issue.parentIssueId = some parent → (table parent).isSome = true

theorem createIssue_created {directory : Directory} {table next : Table} {id : Nat} {issue : Issue}
    {fails : Bool} (done : createIssue directory table id issue fails = .ok next) :
    ∃ stored, Created table next id stored := by
  unfold createIssue at done
  split at done
  · cases done
  · rename_i projectId inherited
    split at done
    · cases done
    · split at done
      · cases done
      · rename_i free
        cases done
        refine ⟨{ issue with projectId := projectId }, ?_, rfl, fun parent has => ?_⟩
        · cases stored : table id with
          | none => rfl
          | some other => simp [stored] at free
        · have named : issue.parentIssueId = some parent := has
          simp only [inheritedProject, named] at inherited
          split at inherited
          · cases inherited
          · rename_i found
            rw [getIssueInWorkspace_some found]
            rfl

inductive Committed (parsers : Parsers) (table : Table) (action : Action) (next : Table) : Prop
  | updated (id : Nat) (prev : Issue) (body : UpdateIssueRequest) (params : UpdateIssueParams)
      (issues : statement parsers table action = some (id, params)) (stored : table id = some prev)
      (made : Made parsers table id prev body params) (stores : next = store table id params)
      (asked : action.request = some (prev.workspaceId, body))
  | created (directory : Directory) (id : Nat) (given issue : Issue) (fails : Bool)
      (issues : statement parsers table action = none) (created : Created table next id issue)
      (creates : action = .create directory id given fails)
      (done : createIssue directory table id given fails = .ok next)
  | unchanged (issues : statement parsers table action = none) (same : next = table)

theorem commit_cases (parsers : Parsers) (table : Table) (action : Action) :
    Committed parsers table action (commit parsers table action) := by
  cases action with
  | create directory id issue fails =>
      simp only [commit]
      cases done : createIssue directory table id issue fails with
      | error refusal => exact .unchanged rfl rfl
      | ok next =>
          obtain ⟨stored, created⟩ := createIssue_created done
          exact .created directory id issue stored fails rfl created rfl done
  | update directory workspaceId id body fails =>
      simp only [commit, updateIssue]
      cases found : getIssueInWorkspace table id workspaceId with
      | none => exact .unchanged (by simp only [statement, found]) rfl
      | some prev =>
          cases prepared : prepareUpdate parsers directory table id prev body with
          | error refusal =>
              exact .unchanged (by simp only [statement, found, prepared])
                (by simp only [prepared, applied])
          | ok params =>
              cases fails with
              | true =>
                  exact .unchanged (by simp [statement, found, prepared])
                    (by simp [prepared, applied])
              | false =>
                  exact .updated id prev body params (by simp [statement, found, prepared])
                    (getIssueInWorkspace_some found) (prepareUpdate_ok prepared)
                    (by simp [prepared, applied]) (by rw [getIssueInWorkspace_workspace found]; rfl)
  | round directory workspaceId issueId body fails =>
      simp only [commit, batchUpdateIssue]
      cases parsed : parsers.parseUUID issueId with
      | none => exact .unchanged (by simp only [statement, parsed]) rfl
      | some id =>
          cases found : getIssueInWorkspace table id workspaceId with
          | none => exact .unchanged (by simp only [statement, parsed, found]) (by simp only [found])
          | some prev =>
              cases made : updateParams parsers directory table id prev body with
              | error refusal =>
                  exact .unchanged (by simp only [statement, parsed, found, made])
                    (by simp only [found, made])
              | ok params =>
                  cases fails with
                  | true =>
                      exact .unchanged (by simp [statement, parsed, found, made])
                        (by simp [found, made])
                  | false =>
                      exact .updated id prev body params (by simp [statement, parsed, found, made])
                        (getIssueInWorkspace_some found) (updateParams_ok made) (by simp [found, made])
                        (by rw [getIssueInWorkspace_workspace found]; rfl)

def emptyTable : Table := fun _ => none

structure ParentForest (table : Table) : Prop where
  acyclic : ∀ id, ¬ Relation.TransGen (ForestLib.Above (parentOf table)) id id
  ends : ∀ id, ∃ depth, ForestLib.ancestorAt (parentOf table) depth id = none
  rooted : ∀ id issue, table id = some issue → ∃ root top, table root = some top ∧
    top.parentIssueId = none ∧ Relation.ReflTransGen (ForestLib.Above (parentOf table)) root id

def ParentsStored (table : Table) : Prop :=
  ∀ id parent, parentOf table id = some parent → (table parent).isSome = true

section Forest

variable {parsers : Parsers} {table next : Table} {id : Nat} {prev issue : Issue}
  {body : UpdateIssueRequest} {params : UpdateIssueParams}

theorem parentOf_stored (stored : table id = some issue) : parentOf table id = issue.parentIssueId := by
  rw [parentOf, stored, Option.bind_some]

theorem parentForest_iff (stored : ParentsStored table) :
    ParentForest table ↔ ForestLib.Forest (parentOf table) := by
  constructor
  · intro forest node
    cases present : table node with
    | none => exact ForestLib.acc_of_rooted (by rw [parentOf, present, Option.bind_none]) .refl
    | some issue =>
        obtain ⟨root, top, storedRoot, noParent, path⟩ := forest.rooted node issue present
        have isRoot : parentOf table root = none := by rw [parentOf_stored storedRoot, noParent]
        exact ForestLib.acc_of_rooted isRoot path
  · intro forest
    refine ⟨forest.acyclic, forest.ends, fun id issue present => ?_⟩
    obtain ⟨root, isRoot, path⟩ := forest.rooted id
    have inTable : (table root).isSome = true := by
      rcases Relation.ReflTransGen.cases_head path with rfl | ⟨child, above, -⟩
      · rw [present]
        rfl
      · exact stored child root above
    obtain ⟨top, storedRoot⟩ := Option.isSome_iff_exists.mp inTable
    exact ⟨root, top, storedRoot, by rw [← parentOf_stored storedRoot, isRoot], path⟩

theorem parentOf_store (stored : table id = some prev) :
    parentOf (store table id params) = Function.update (parentOf table) id params.parentIssueId := by
  funext other
  by_cases here : other = id
  · subst here
    simp [parentOf, store, stored, Issue.update]
  · simp [parentOf, store, Function.update_of_ne here]

theorem store_isSome (other : Nat) :
    (store table id params other).isSome = (table other).isSome := by
  by_cases here : other = id
  · subst here
    simp [store]
  · simp [store, Function.update_of_ne here]

theorem Created.parentOf (created : Created table next id issue) :
    parentOf next = Function.update (Issues.parentOf table) id issue.parentIssueId := by
  funext other
  rw [created.next]
  by_cases here : other = id
  · subst here
    simp [Issues.parentOf]
  · simp [Issues.parentOf, Function.update_of_ne here]

theorem reaches_iff {cursor : Nat} {depth : Nat} :
    reaches table id depth cursor = true ↔
      ∃ level, level < depth ∧ ForestLib.ancestorAt (parentOf table) (level + 1) cursor = some id := by
  induction depth generalizing cursor with
  | zero => simp [reaches]
  | succ depth ih =>
      rw [reaches]
      change (match parentOf table cursor with
        | none => false
        | some parent => if parent = id then true else reaches table id depth parent) = true ↔ _
      cases above : parentOf table cursor with
      | none => simp [ForestLib.ancestorAt, above]
      | some parent =>
          by_cases same : parent = id
          · subst same
            simp only [if_true, true_iff]
            exact ⟨0, by omega, by simp [ForestLib.ancestorAt, above]⟩
          · simp only [same, if_false, ih]
            constructor
            · rintro ⟨level, within, found⟩
              exact ⟨level + 1, by omega, by rw [ForestLib.ancestorAt_succ above, found]⟩
            · rintro ⟨level, within, found⟩
              rw [ForestLib.ancestorAt_succ above] at found
              cases level with
              | zero =>
                  cases found
                  contradiction
              | succ level => exact ⟨level, by omega, found⟩

theorem Made.parent (made : Made parsers table id prev body params) {parent : Nat}
    (has : params.parentIssueId = some parent) :
    prev.parentIssueId = some parent ∨
      (parent ≠ id ∧ (table parent).isSome = true ∧ reaches table id cycleDepth parent = false) := by
  have decoded := made.parentIssueId
  rw [has] at decoded
  unfold overlay at decoded
  split at decoded
  · rw [Except.ok.injEq] at decoded
    exact Or.inl decoded
  · cases decoded
  · obtain ⟨-, named, same, different, found, clear⟩ := decodeParent_ok decoded
    cases same
    obtain ⟨issue, present⟩ := Option.isSome_iff_exists.mp found
    refine Or.inr ⟨different, ?_, clear⟩
    rw [getIssueInWorkspace_some present]
    rfl

theorem Made.below_iff (made : Made parsers table id prev body params) (stored : table id = some prev)
    (forest : ForestLib.Forest (parentOf table)) {parent : Nat}
    (has : params.parentIssueId = some parent) :
    Relation.ReflTransGen (ForestLib.Above (parentOf table)) id parent ↔
      ∃ depth, cycleDepth < depth ∧ ForestLib.ancestorAt (parentOf table) depth parent = some id := by
  constructor
  · intro below
    rcases made.parent has with same | ⟨different, -, clear⟩
    · have above : parentOf table id = some parent := by rw [parentOf_stored stored, same]
      exact absurd below (forest.parent_apart above)
    · obtain ⟨depth, found⟩ := ForestLib.reachable_iff.mp below
      refine ⟨depth, ?_, found⟩
      by_contra near
      cases depth with
      | zero =>
          cases found
          contradiction
      | succ level =>
          have within : level < cycleDepth := by omega
          have seen := reaches_iff.mpr ⟨level, within, found⟩
          rw [clear] at seen
          cases seen
  · rintro ⟨depth, -, found⟩
    exact ForestLib.reachable_iff.mpr ⟨depth, found⟩

theorem ParentsStored.commit (stored : ParentsStored table) (action : Action) :
    ParentsStored (commit parsers table action) := by
  cases commit_cases parsers table action with
  | updated id prev body params _ present made stores _ =>
      intro child parent above
      rw [stores, parentOf_store present] at above
      rw [stores, store_isSome]
      by_cases here : child = id
      · rw [here, Function.update_self] at above
        rcases made.parent above with same | ⟨-, found, -⟩
        · exact stored id parent (by rw [parentOf_stored present, same])
        · exact found
      · rw [Function.update_of_ne here] at above
        exact stored child parent above
  | created _ id _ issue _ _ created _ _ =>
      intro child parent above
      have kept : ∀ other, (table other).isSome = true →
          (Issues.commit parsers table action other).isSome = true := by
        intro other present
        have different : other ≠ id := by
          rintro rfl
          rw [created.fresh] at present
          cases present
        rw [created.next, Function.update_of_ne different]
        exact present
      rw [created.parentOf] at above
      by_cases here : child = id
      · rw [here, Function.update_self] at above
        exact kept parent (created.parent parent above)
      · rw [Function.update_of_ne here] at above
        exact kept parent (stored child parent above)
  | unchanged _ same =>
      rw [same]
      exact stored

theorem Created.forest (created : Created table next id issue) (stored : ParentsStored table)
    (forest : ForestLib.Forest (Issues.parentOf table)) :
    ForestLib.Forest (Issues.parentOf next) := by
  rw [created.parentOf]
  refine forest.update fun parent has below => ?_
  rcases Relation.ReflTransGen.cases_head below with same | ⟨child, above, -⟩
  · have present := created.parent parent has
    rw [← same, created.fresh] at present
    cases present
  · have present := stored child id above
    rw [created.fresh] at present
    cases present

/-- No `UPDATE` of the action puts an issue under one of its own descendants more than ten levels
below it. -/
def NoDistantMove (parsers : Parsers) (table : Table) (action : Action) : Prop :=
  ∀ id params parent, statement parsers table action = some (id, params) →
    params.parentIssueId = some parent → ∀ depth, cycleDepth < depth →
      ForestLib.ancestorAt (parentOf table) depth parent ≠ some id

theorem commit_forest_iff (stored : ParentsStored table)
    (forest : ForestLib.Forest (parentOf table)) (action : Action) :
    ForestLib.Forest (parentOf (commit parsers table action)) ↔ NoDistantMove parsers table action := by
  have quiet : statement parsers table action = none → NoDistantMove parsers table action := by
    intro none id params parent issues
    rw [none] at issues
    cases issues
  cases commit_cases parsers table action with
  | updated id prev body params issues present made stores _ =>
      rw [stores, parentOf_store present, forest.update_iff]
      constructor
      · intro apart other params' parent same has depth far found
        rw [issues, Option.some.injEq, Prod.mk.injEq] at same
        obtain ⟨rfl, rfl⟩ := same
        exact apart parent has ((made.below_iff present forest has).mpr ⟨depth, far, found⟩)
      · intro near parent has below
        obtain ⟨depth, far, found⟩ := (made.below_iff present forest has).mp below
        exact near id params parent issues has depth far found
  | created _ id _ issue _ issues created _ _ =>
      exact iff_of_true (created.forest stored forest) (quiet issues)
  | unchanged issues same =>
      rw [same]
      exact iff_of_true forest (quiet issues)

end Forest

theorem emptyTable_stored : ParentsStored emptyTable := by
  intro id parent above
  cases above

theorem emptyTable_forest : ParentForest emptyTable := by
  refine (parentForest_iff emptyTable_stored).mpr fun node => ⟨node, fun upper above => ?_⟩
  cases above

/-- Over every sequence of requests, the parents form a forest all along exactly when no update
moves an issue under a descendant more than ten levels below it. -/
theorem parents_stay_forest_iff (parsers : Parsers) (commands : List Command) :
    RunLib.Always (commit parsers) ParentForest emptyTable (commands.flatMap Command.actions) ↔
      RunLib.Every (commit parsers) (NoDistantMove parsers) emptyTable
        (commands.flatMap Command.actions) := by
  refine RunLib.always_iff_every emptyTable_stored emptyTable_forest
    (fun table action stored => stored.commit action) fun table action stored forest => ?_
  rw [parentForest_iff (stored.commit action)]
  exact commit_forest_iff stored ((parentForest_iff stored).mp forest) action

/-! A chain of twelve issues whose root is moved under its last one. -/

def chainParsers : Parsers where
  parseUUID text := if text = "11" then some 11 else none
  parseCalendarDate _ := none

def chainIssue (id : Nat) : Issue :=
  { plainIssue with parentIssueId := if id = 0 then none else some (id - 1) }

def chainTable (size : Nat) : Table := fun id => if id < size then some (chainIssue id) else none

def chainCreates (size : Nat) : List Command :=
  (List.range size).map fun id => .create emptyDirectory id (chainIssue id) false

def moveRoot : Command :=
  .update emptyDirectory 0 0 { emptyBody with parentIssueId := some (some "11") } false

theorem chainTable_succ (size : Nat) :
    createIssue emptyDirectory (chainTable size) size (chainIssue size) false =
      .ok (chainTable (size + 1)) := by
  have inherits : inheritedProject (chainTable size) (chainIssue size) = .ok none := by
    cases size with
    | zero => rfl
    | succ pred =>
        have stored : chainTable (pred + 1) pred = some (chainIssue pred) := if_pos (by omega)
        have parent : (chainIssue (pred + 1)).parentIssueId = some pred := rfl
        have found : getIssueInWorkspace (chainTable (pred + 1)) pred
            (chainIssue (pred + 1)).workspaceId = some (chainIssue pred) := by
          rw [getIssueInWorkspace, stored]
          rfl
        simp only [inheritedProject, parent, found]
        rfl
  have free : (chainTable size size).isSome = false := by simp [chainTable]
  have grown : Function.update (chainTable size) size (some (chainIssue size)) =
      chainTable (size + 1) := by
    funext id
    by_cases here : id = size
    · subst here
      simp [chainTable]
    · have order : id < size + 1 ↔ id < size := by omega
      simp only [Function.update_of_ne here, chainTable, order]
  simp only [createIssue, inherits, free]
  rw [← grown]
  rfl

theorem chain_created (parsers : Parsers) (size : Nat) :
    RunLib.run (execute parsers) emptyTable (chainCreates size) = chainTable size := by
  induction size with
  | zero => rfl
  | succ size ih =>
      rw [chainCreates] at ih
      rw [chainCreates, List.range_succ, List.map_append, RunLib.run_append, ih]
      simp only [List.map_cons, List.map_nil, RunLib.run_cons, RunLib.run_nil, execute,
        chainTable_succ, applied]

theorem parents_become_cycle :
    ¬ RunLib.Always (commit chainParsers) ParentForest emptyTable
      ((chainCreates 12 ++ [moveRoot]).flatMap Command.actions) := by
  intro always
  have forest := always.last
  rw [← executes_eq, RunLib.run_append, chain_created] at forest
  have moved : ForestLib.Above (parentOf (RunLib.run (execute chainParsers) (chainTable 12) [moveRoot]))
      11 0 := by
    rw [ForestLib.Above]
    decide
  have path : Relation.ReflTransGen
      (ForestLib.Above (parentOf (RunLib.run (execute chainParsers) (chainTable 12) [moveRoot]))) 0 11 :=
    ForestLib.reachable_iff.mpr ⟨11, by decide⟩
  exact forest.acyclic 0 (Relation.TransGen.tail' path moved)

end MulticaOS.Issues
