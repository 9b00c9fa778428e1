import MulticaOS.FeatureFlags.Hash

/-!
One rule of a feature flag and its two evaluations: `evaluateRule` of the client and of the
server, each with the defaults its own language gives to what is left out.
-/

namespace MulticaOS.FeatureFlags

structure PercentConfig where
  percent : Int
  byAttribute : Option String

structure RuleConfig where
  default : Option Bool
  variant : Option String
  allow : Option (List String)
  allowBy : Option String
  deny : Option (List String)
  denyBy : Option String
  percent : Option PercentConfig

structure EvalContext where
  userId : Option String
  workspaceId : Option String
  attributes : Option (String → Option String)

inductive Reason where
  | static
  | percent
  deriving DecidableEq

structure Decision where
  key : String
  enabled : Bool
  variant : String
  reason : Reason
  source : String
  deriving DecidableEq

def boolToVariant (enabled : Bool) : String := if enabled then "on" else "off"

namespace Client

/-- Functions every object inherits that take at least one argument: their `length`, which is what
the client asks for, is not zero. -/
def inheritedNames : List String :=
  ["constructor", "hasOwnProperty", "isPrototypeOf", "propertyIsEnumerable", "__defineGetter__",
    "__defineSetter__", "__lookupGetter__", "__lookupSetter__"]

/-- What an attribute reads as: a text, or one of those functions. -/
inductive Attribute where
  | text (value : String)
  | inherited (name : String)

def functionText (name : String) : String :=
  "function " ++ (if name = "constructor" then "Object" else name) ++ "() { [native code] }"

def nonEmpty (value : Option String) : Option Attribute :=
  match value with
  | none => none
  | some text => if text = "" then none else some (.text text)

def lookupAttr (ctx : EvalContext) (name : String) : Option Attribute :=
  if name = "user_id" then nonEmpty ctx.userId
  else if name = "workspace_id" then nonEmpty ctx.workspaceId
  else
    match ctx.attributes with
    | none => none
    | some attributes =>
        match attributes name with
        | some value => nonEmpty (some value)
        | none => if name ∈ inheritedNames then some (.inherited name) else none

def includes (list : List String) : Attribute → Bool
  | .text value => list.contains value
  | .inherited _ => false

def Attribute.encoded : Attribute → String
  | .text value => value
  | .inherited name => functionText name

def decisionFromRule (key : String) (rule : RuleConfig) (enabled : Bool) (reason : Reason) : Decision where
  key := key
  enabled := enabled
  variant := match rule.variant with
    | some variant => if enabled && variant ≠ "" then variant else boolToVariant enabled
    | none => boolToVariant enabled
  reason := reason
  source := "static"

def listed (ctx : EvalContext) (list : Option (List String)) (byAttribute : Option String) : Bool :=
  match list with
  | none => false
  | some [] => false
  | some list => (lookupAttr ctx (byAttribute.getD "user_id")).any (includes list)

def evaluateRule (key : String) (rule : RuleConfig) (ctx : EvalContext) : Decision :=
  if listed ctx rule.deny rule.denyBy then decisionFromRule key rule false .static
  else if listed ctx rule.allow rule.allowBy then decisionFromRule key rule true .static
  else
    match rule.percent with
    | some rollout =>
        let identifier := ((lookupAttr ctx (rollout.byAttribute.getD "user_id")).map Attribute.encoded).getD ""
        decisionFromRule key rule (inPercent key identifier rollout.percent) .percent
    | none => decisionFromRule key rule (rule.default.getD false) .static

end Client

namespace Server

structure PercentRollout where
  percent : Int
  byAttribute : String

structure Rule where
  default : Bool
  variant : String
  allow : List String
  allowBy : String
  deny : List String
  denyBy : String
  percent : Option PercentRollout

def toRule (config : RuleConfig) : Rule where
  default := config.default.getD false
  variant := config.variant.getD ""
  allow := config.allow.getD []
  allowBy := config.allowBy.getD ""
  deny := config.deny.getD []
  denyBy := config.denyBy.getD ""
  percent := config.percent.map fun rollout => ⟨rollout.percent, rollout.byAttribute.getD ""⟩

structure Context where
  userId : String
  workspaceId : String
  attributes : Option (String → Option String)

def toContext (ctx : EvalContext) : Context where
  userId := ctx.userId.getD ""
  workspaceId := ctx.workspaceId.getD ""
  attributes := ctx.attributes

def lookup (ec : Context) (name : String) : Option String :=
  if name = "user_id" then if ec.userId ≠ "" then some ec.userId else none
  else if name = "workspace_id" then if ec.workspaceId ≠ "" then some ec.workspaceId else none
  else
    match ec.attributes with
    | none => none
    | some attributes =>
        match attributes name with
        | none => none
        | some value => if value = "" then none else some value

def orDefault (value fallback : String) : String := if value = "" then fallback else value

def decisionFromRule (key : String) (rule : Rule) (enabled : Bool) (reason : Reason) : Decision where
  key := key
  enabled := enabled
  variant := if enabled && rule.variant ≠ "" then rule.variant else boolToVariant enabled
  reason := reason
  source := "static"

def listed (ec : Context) (list : List String) (byAttribute : String) : Bool :=
  list ≠ [] && (lookup ec (orDefault byAttribute "user_id")).any fun value => list.contains value

def evaluateRule (key : String) (rule : Rule) (ec : Context) : Decision :=
  if listed ec rule.deny rule.denyBy then decisionFromRule key rule false .static
  else if listed ec rule.allow rule.allowBy then decisionFromRule key rule true .static
  else
    match rule.percent with
    | some rollout =>
        let identifier := (lookup ec (orDefault rollout.byAttribute "user_id")).getD ""
        decisionFromRule key rule (inPercent key identifier rollout.percent) .percent
    | none => decisionFromRule key rule rule.default .static

end Server

def Client.Attribute.ownText : Client.Attribute → Option String
  | .text value => some value
  | .inherited _ => none

theorem lookup_eq (ctx : EvalContext) (name : String) :
    Server.lookup (Server.toContext ctx) name =
      (Client.lookupAttr ctx name).bind Client.Attribute.ownText := by
  have dedicated : ∀ value : Option String, (if value.getD "" ≠ "" then some (value.getD "") else none) =
      (Client.nonEmpty value).bind Client.Attribute.ownText := by
    intro value
    cases value with
    | none => rfl
    | some text =>
        by_cases empty : text = ""
        · simp [Client.nonEmpty, empty]
        · simp [Client.nonEmpty, empty, Client.Attribute.ownText]
  unfold Server.lookup Client.lookupAttr
  split
  · exact dedicated ctx.userId
  · split
    · exact dedicated ctx.workspaceId
    · simp only [Server.toContext]
      cases ctx.attributes with
      | none => rfl
      | some attributes =>
          dsimp only
          cases attributes name with
          | none =>
              dsimp only
              split
              · rfl
              · rfl
          | some value =>
              by_cases empty : value = ""
              · simp [Client.nonEmpty, empty]
              · simp [Client.nonEmpty, empty, Client.Attribute.ownText]

theorem orDefault_eq {byAttribute : Option String} (named : byAttribute ≠ some "") :
    Server.orDefault (byAttribute.getD "") "user_id" = byAttribute.getD "user_id" := by
  cases byAttribute with
  | none => rfl
  | some name =>
      have nonempty : name ≠ "" := fun same => named (by rw [same])
      simp [Server.orDefault, nonempty]

theorem includes_eq (list : List String) (found : Option Client.Attribute) :
    found.any (Client.includes list) =
      (found.bind Client.Attribute.ownText).any fun value => list.contains value := by
  cases found with
  | none => rfl
  | some value =>
      cases value with
      | text own => rfl
      | inherited name => rfl

theorem listed_eq (ctx : EvalContext) (list : Option (List String)) {byAttribute : Option String}
    (named : byAttribute ≠ some "") :
    Client.listed ctx list byAttribute =
      Server.listed (Server.toContext ctx) (list.getD []) (byAttribute.getD "") := by
  unfold Client.listed Server.listed
  rw [orDefault_eq named, lookup_eq]
  split
  · simp
  · simp
  · rename_i values nonempty
    have listThere : values ≠ [] := fun empty => nonempty (by rw [empty])
    rw [Option.getD_some, includes_eq]
    simp [listThere]

theorem decisionFromRule_eq (key : String) (rule : RuleConfig) (enabled : Bool) (reason : Reason) :
    Client.decisionFromRule key rule enabled reason =
      Server.decisionFromRule key (Server.toRule rule) enabled reason := by
  cases noVariant : rule.variant with
  | none => simp [Client.decisionFromRule, Server.decisionFromRule, Server.toRule, noVariant]
  | some variant => simp [Client.decisionFromRule, Server.decisionFromRule, Server.toRule, noVariant]

def RolloutNamed (byAttribute : Option String) : Prop :=
  byAttribute ≠ some "" ∧ ∀ name, byAttribute = some name → name ∉ Client.inheritedNames

theorem identifier_eq (ctx : EvalContext) {byAttribute : Option String}
    (named : RolloutNamed byAttribute) :
    ((Client.lookupAttr ctx (byAttribute.getD "user_id")).map Client.Attribute.encoded).getD "" =
      (Server.lookup (Server.toContext ctx) (Server.orDefault (byAttribute.getD "") "user_id")).getD "" := by
  rw [orDefault_eq named.1, lookup_eq]
  cases found : Client.lookupAttr ctx (byAttribute.getD "user_id") with
  | none => rfl
  | some value =>
      cases value with
      | text own => rfl
      | inherited name =>
          exfalso
          have isInherited : byAttribute.getD "user_id" ∈ Client.inheritedNames := by
            unfold Client.lookupAttr Client.nonEmpty at found
            grind
          cases byAttribute with
          | none => exact absurd isInherited (by decide)
          | some given => exact named.2 given rfl isInherited

theorem evaluateRule_eq (key : String) (rule : RuleConfig) (ctx : EvalContext)
    (denyNamed : rule.denyBy ≠ some "") (allowNamed : rule.allowBy ≠ some "")
    (rolloutNamed : ∀ rollout, rule.percent = some rollout → RolloutNamed rollout.byAttribute) :
    Client.evaluateRule key rule ctx =
      Server.evaluateRule key (Server.toRule rule) (Server.toContext ctx) := by
  unfold Client.evaluateRule Server.evaluateRule
  rw [listed_eq ctx rule.deny denyNamed, listed_eq ctx rule.allow allowNamed]
  simp only [decisionFromRule_eq]
  cases noPercent : rule.percent with
  | none => simp [Server.toRule, noPercent]
  | some rollout =>
      have identifiers := identifier_eq ctx (rolloutNamed rollout noPercent)
      simp [Server.toRule, noPercent, identifiers, inPercent_eq]

/-! Where they do not: an empty attribute name, or a rollout by an inherited one. -/

structure Attributes where
  denyBy : Option String
  allowBy : Option String
  percentBy : Option String

structure Targeting where
  default : Option Bool
  variant : Option String
  allow : Option (List String)
  deny : Option (List String)
  percent : Option Int

def Targeting.rule (targeting : Targeting) (attributes : Attributes) : RuleConfig where
  default := targeting.default
  variant := targeting.variant
  allow := targeting.allow
  allowBy := attributes.allowBy
  deny := targeting.deny
  denyBy := attributes.denyBy
  percent := targeting.percent.map fun percent => ⟨percent, attributes.percentBy⟩

def Alike (attributes : Attributes) : Prop :=
  ∀ (key : String) (targeting : Targeting) (ctx : EvalContext),
    Client.evaluateRule key (targeting.rule attributes) ctx =
      Server.evaluateRule key (Server.toRule (targeting.rule attributes)) (Server.toContext ctx)

def onlyUser (user : String) : EvalContext := ⟨some user, none, none⟩

def noAttributes : EvalContext := ⟨none, none, some fun _ => none⟩

theorem deny_apart {attributes : Attributes} (empty : attributes.denyBy = some "") :
    ¬ Alike attributes := by
  intro alike
  have same := congrArg Decision.enabled
    (alike "k" ⟨some true, none, none, some ["u"], none⟩ (onlyUser "u"))
  simp [Client.evaluateRule, Server.evaluateRule, Client.listed, Server.listed, Targeting.rule,
    Server.toRule, empty, Client.lookupAttr, onlyUser, Server.lookup, Server.toContext,
    Server.orDefault, Client.decisionFromRule, Server.decisionFromRule] at same

theorem allow_apart {attributes : Attributes} (empty : attributes.allowBy = some "") :
    ¬ Alike attributes := by
  intro alike
  have same := congrArg Decision.enabled
    (alike "k" ⟨none, none, some ["u"], none, none⟩ (onlyUser "u"))
  simp [Client.evaluateRule, Server.evaluateRule, Client.listed, Server.listed, Targeting.rule,
    Server.toRule, empty, Client.lookupAttr, onlyUser, Server.lookup, Server.toContext,
    Server.orDefault, Client.decisionFromRule, Server.decisionFromRule] at same

theorem rollout_alike {attributes : Attributes} (alike : Alike attributes) (key : String) (percent : Int)
    (ctx : EvalContext) :
    Server.inPercent key (((Client.lookupAttr ctx (attributes.percentBy.getD "user_id")).map
        Client.Attribute.encoded).getD "") percent =
      Server.inPercent key ((Server.lookup (Server.toContext ctx)
        (Server.orDefault (attributes.percentBy.getD "") "user_id")).getD "") percent := by
  have same := congrArg Decision.enabled (alike key ⟨none, none, none, none, some percent⟩ ctx)
  simpa [Client.evaluateRule, Server.evaluateRule, Client.listed, Server.listed, Targeting.rule,
    Server.toRule, Client.decisionFromRule, Server.decisionFromRule, inPercent_eq] using same

theorem rollout_apart {attributes : Attributes} (misnamed : ¬ RolloutNamed attributes.percentBy) :
    ¬ Alike attributes := by
  intro alike
  apply misnamed
  constructor
  · intro empty
    have apart : Server.bucketFor "k" "" ≠ Server.bucketFor "k" "u" := by decide +kernel
    obtain ⟨percent, differ⟩ := inPercent_ne apart
    have same := rollout_alike alike "k" percent (onlyUser "u")
    apply differ
    simpa [empty, Client.lookupAttr, onlyUser, Server.lookup, Server.toContext, Server.orDefault]
      using same
  · intro name given isInherited
    have apart : ∀ name ∈ Client.inheritedNames,
        Server.bucketFor "k" (Client.functionText name) ≠ Server.bucketFor "k" "" := by
      decide +kernel
    have plain : ∀ name ∈ Client.inheritedNames,
        name ≠ "" ∧ name ≠ "user_id" ∧ name ≠ "workspace_id" := by decide
    obtain ⟨percent, differ⟩ := inPercent_ne (apart name isInherited)
    obtain ⟨nonempty, notUser, notWorkspace⟩ := plain name isInherited
    have same := rollout_alike alike "k" percent noAttributes
    apply differ
    simpa [given, isInherited, nonempty, notUser, notWorkspace, Client.lookupAttr, noAttributes,
      Server.lookup, Server.toContext, Server.orDefault, Client.Attribute.encoded] using same

end MulticaOS.FeatureFlags
