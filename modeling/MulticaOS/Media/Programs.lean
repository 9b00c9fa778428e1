import MulticaOS.Lib.Programs
import MulticaOS.Media.Ledger

/-!
The parties of the media ledger as programs over the calls that they make: the ingest of a
message's resources with the bind of what was uploaded, and a sweep of the reconciler.
-/

namespace MulticaOS.Media

open ProgramLib

inductive CommitAnswer
  | committed
  | failed (text : String)

structure Resource where
  messageID : String
  fetchType : String
  key : String
  deriving DecidableEq

inductive Call
  | expired
  | record (intent : Intent)
  | download (res : Resource)
  | upload (storageKey : String)
  | begin
  | claimForBind (storageKeys : List String) (workspaceID : String)
  | createAttachment (workspaceID url : String)
  | linkAttachments (chatMessageID : String)
  | clearMediaPending (chatMessageID : String)
  | commit
  | rollback
  | claimForReconcile (leaseToken : Nat)
  | renew (storageKey workspaceID : String) (leaseToken : Nat)
  | isReferenced (chatMessageID workspaceID storageURL : String)
  | deleteObject (storageKey : String)
  | tombstone (storageKey workspaceID : String) (leaseToken delay pass : Nat)
  | release (storageKey workspaceID : String) (leaseToken backoff : Nat)
  | clear (storageKey workspaceID : String) (leaseToken : Nat)
  deriving DecidableEq

def Answer : Call → Type
  | .expired => Bool
  | .record _ => Except String Bool
  | .download _ => Except String Unit
  | .upload _ => Except String Unit
  | .begin => Except String Unit
  | .claimForBind _ _ => Except String (List String)
  | .createAttachment _ _ => Except String Unit
  | .linkAttachments _ => Except String Unit
  | .clearMediaPending _ => Except String Unit
  | .commit => CommitAnswer
  | .rollback => Unit
  | .claimForReconcile _ => Except String (List ClaimedRow)
  | .renew _ _ _ => Except String Nat
  | .isReferenced _ _ _ => Except String Bool
  | .deleteObject _ => Except String Unit
  | .tombstone _ _ _ _ _ => Unit
  | .release _ _ _ _ => Unit
  | .clear _ _ _ => Unit

abbrev Program (Result : Type) := ProgramLib.Program Call Answer Result

abbrev ask (request : Call) : Program (Answer request) := ProgramLib.Program.ask request

structure Ingest where
  workspaceID : String
  installationID : String
  chatMessageID : String
  resources : List Resource
  deriving DecidableEq

structure Store where
  base : String
  digest : String → String

def Store.objectURL (store : Store) (storageKey : String) : String := store.base ++ storageKey

structure MediaRef where
  storageKey : String
  storageURL : String
  deriving DecidableEq

def mediaObjectKey (store : Store) (workspaceID installationID chatMessageID : String) (res : Resource) : String :=
  "workspaces/" ++ workspaceID ++ "/lark/" ++ installationID ++ "/" ++
    store.digest (chatMessageID ++ "\x00" ++ res.messageID ++ "\x00" ++ res.fetchType ++ "\x00" ++ res.key)

def Ingest.storageKey (ingest : Ingest) (store : Store) (res : Resource) : String :=
  mediaObjectKey store ingest.workspaceID ingest.installationID ingest.chatMessageID res

def Ingest.intent (ingest : Ingest) (store : Store) (res : Resource) : Intent :=
  ⟨ingest.storageKey store res, ingest.workspaceID, ingest.chatMessageID,
    store.objectURL (ingest.storageKey store res)⟩

def Ingest.ref (ingest : Ingest) (store : Store) (res : Resource) : MediaRef :=
  ⟨ingest.storageKey store res, store.objectURL (ingest.storageKey store res)⟩

/-- `ResolveMedia`: a resource whose intent is not recorded is not uploaded, and one whose upload fails is
not bound. -/
def resolveMedia (store : Store) (ingest : Ingest) : List Resource → List MediaRef → Program (List MediaRef)
  | [], refs => return refs
  | res :: rest, refs => do
      match ← ask (.record (ingest.intent store res)) with
      | .error _ => resolveMedia store ingest rest refs
      | .ok false => resolveMedia store ingest rest refs
      | .ok true =>
          match ← ask (.download res) with
          | .error _ => resolveMedia store ingest rest refs
          | .ok _ =>
              match ← ask (.upload (ingest.storageKey store res)) with
              | .error _ => resolveMedia store ingest rest refs
              | .ok _ => resolveMedia store ingest rest (refs ++ [ingest.ref store res])

def createAttachments (ingest : Ingest) (claimed : List String) :
    List MediaRef → Bool → Program (Except String Bool)
  | [], created => return .ok created
  | ref :: rest, created => do
      if ref.storageKey ∈ claimed then
        match ← ask (.createAttachment ingest.workspaceID ref.storageURL) with
        | .error text => return .error ("create chat attachment: " ++ text)
        | .ok _ => createAttachments ingest claimed rest true
      else createAttachments ingest claimed rest created

def refusal : List MediaRef → Option String
  | [] => none
  | ref :: rest =>
      if ref.storageURL = "" then some "bind media refs: storage_url is required"
      else if ref.storageKey = "" then some "bind media refs: storage_key is required"
      else refusal rest

def bindMediaRefs (ingest : Ingest) (refs : List MediaRef) : Program (Except String Unit) := do
  if ingest.workspaceID = "" then return .error "bind media refs: workspace_id is required"
  else if ingest.chatMessageID = "" then return .error "bind media refs: message_id is required"
  else
    match refusal refs with
    | some text => return .error text
    | none =>
        match ← ask (.claimForBind (refs.map MediaRef.storageKey) ingest.workspaceID) with
        | .error text => return .error ("claim media intents: " ++ text)
        | .ok claimed =>
            match ← createAttachments ingest claimed refs false with
            | .error text => return .error text
            | .ok false => return .ok ()
            | .ok true =>
                match ← ask (.linkAttachments ingest.chatMessageID) with
                | .error text => return .error ("link chat attachments: " ++ text)
                | .ok _ => return .ok ()

def finalizeBind (ingest : Ingest) : Program Unit := do
  match ← ask (.clearMediaPending ingest.chatMessageID) with
  | .error _ =>
      let _ ← ask .rollback
      return ()
  | .ok _ =>
      match ← ask .commit with
      | .failed _ =>
          let _ ← ask .rollback
          return ()
      | .committed => return ()

/-- `BindMediaRefs`. A failed bind is rolled back, and the marker is cleared outside the transaction. -/
def bindMedia (ingest : Ingest) (refs : List MediaRef) : Program Unit := do
  match ← ask .begin with
  | .error _ => return ()
  | .ok _ =>
      if refs = [] then finalizeBind ingest
      else
        match ← bindMediaRefs ingest refs with
        | .error _ =>
            let _ ← ask .rollback
            let _ ← ask (.clearMediaPending ingest.chatMessageID)
            return ()
        | .ok _ => finalizeBind ingest

def resolveInTime (store : Store) (ingest : Ingest) : Program (List MediaRef) := do
  match ← ask .expired with
  | true => return []
  | false => resolveMedia store ingest ingest.resources []

def resolveAndBindMedia (store : Store) (ingest : Ingest) : Program Unit := do
  let refs ← resolveInTime store ingest
  match ← ask .expired with
  | true => bindMedia ingest []
  | false => bindMedia ingest refs

def release (claimed : ClaimedRow) (leaseToken : Nat) : Program Unit := do
  let _ ← ask (.release claimed.storageKey claimed.row.workspaceID leaseToken
    (releaseBackoff claimed.row.attempt))
  return ()

def clearRow (claimed : ClaimedRow) (leaseToken : Nat) : Program Unit := do
  let _ ← ask (.clear claimed.storageKey claimed.row.workspaceID leaseToken)
  return ()

def settleDeletedObject (claimed : ClaimedRow) (leaseToken : Nat) : Program Unit := do
  match ← ask (.deleteObject claimed.storageKey) with
  | .error _ => release claimed leaseToken
  | .ok _ =>
      match nextTombstonePass claimed.row with
      | some (delay, pass) =>
          let _ ← ask (.tombstone claimed.storageKey claimed.row.workspaceID leaseToken delay pass)
          return ()
      | none => clearRow claimed leaseToken

def settle (claimed : ClaimedRow) (leaseToken : Nat) : Program Unit := do
  match ← ask (.renew claimed.storageKey claimed.row.workspaceID leaseToken) with
  | .error _ => return ()
  | .ok renewed =>
      if renewed = 0 then return ()
      else
        match ← ask (.isReferenced claimed.row.chatMessageID claimed.row.workspaceID claimed.row.storageURL) with
        | .error _ => release claimed leaseToken
        | .ok true => clearRow claimed leaseToken
        | .ok false => settleDeletedObject claimed leaseToken

def settleAll (leaseToken : Nat) : List ClaimedRow → Program Unit
  | [] => return ()
  | claimed :: rest => do
      settle claimed leaseToken
      settleAll leaseToken rest

def runOnce (leaseToken : Nat) : Program Unit := do
  match ← ask (.claimForReconcile leaseToken) with
  | .error _ => return ()
  | .ok rows => settleAll leaseToken rows

end MulticaOS.Media
