import MulticaOS.IssueTriggers.Creation

/-!
The preview against the writes it stands for: the pairs are the same exactly when what is previewed
was predicted, and they are not where a backlog issue of somebody else's private agent is promoted.
-/

namespace MulticaOS.IssueTriggers

open TaskQueue (Db)

def privateSite : Site where
  agents id := if id = 3 then some ⟨1, true, false, some 4, some 7, .ownerOnly, []⟩ else none
  squads _ := none
  runtimeOnline _ := some true
  member _ _ := true
  project _ _ := false
  reviewHeadSha _ := none
  overlay _ _ := TaskQueue.noOverlay
  issueIds := [2]
  provenance _ := ⟨.member, 7, none, none⟩
  queries := ⟨fun _ => none, fun _ _ => none, fun _ => none, fun _ => none, fun _ _ => none, fun _ => some false⟩
  parsers := ⟨fun text => if text = "issue" then some 2 else none, fun _ => none⟩

def parkedIssues : Issues.Table := fun id =>
  if id = 2 then some { (Change.mk (some ("agent", 3)) (some "backlog")).candidate 1 with title := "parked" }
  else none

def emptyQueue : Db := ⟨0, 1, [], [], fun _ => 1, [], []⟩

def promotion : IssueTriggerPreviewRequest := ⟨["issue"], false, none, none, some "todo"⟩

end MulticaOS.IssueTriggers
