import OperationSamples.Json.Printer

/-!
What a run reports while it works.

A `Notice` says what happened; its level and its wording are functions of it. Functions that can
report return a `Logged` value: the result and the notices in the order in which they arose.
-/

namespace OperationSamples

inductive Level where
  | debug
  | info
  | warning
  | error
  | critical
deriving DecidableEq, Repr, Inhabited

namespace Level

def rank : Level → Nat
  | .debug => 0
  | .info => 1
  | .warning => 2
  | .error => 3
  | .critical => 4

def word : Level → String
  | .debug => "debug"
  | .info => "info"
  | .warning => "warning"
  | .error => "error"
  | .critical => "critical"

def ofWord? (word : String) : Option Level :=
  [Level.debug, .info, .warning, .error, .critical].find? fun level => level.word == word

/-- Whether a record of this level passes a threshold. -/
def reaches (level threshold : Level) : Bool := threshold.rank ≤ level.rank

end Level

inductive Notice where
  | fragmentRedefined (fragment : String)
  | fragmentsRegistered (count : Nat)
  | fragmentCycle (chain : List String) (fragment : String)
  | fragmentTooDeep (fragment : String) (limit : Nat)
  | unknownFragment (fragment : String)
  | missingField (field type : String)
  | unresolvedSpread (fragment type : String)
  | unknownCondition (condition type : String)
  | impossibleCondition (condition type : String)
  | notAMember (condition type : String)
  | noMembers (path type : String)
  | shapeStarted (name type : String) (depth : Nat)
  | generatorsChecked (count : Nat)
  | runStarted (documents : Nat)
  | runFinished (artifacts : Nat)
  | fragmentNotComposite (fragment type : String)
  | anonymousOperation (kind : String)
  | rootMissing (kind operation : String)
  | plainShapeOmitted (name : String) (variants : Nat)
  | nothingToRender
  | schemaBuilt
  | documentsLoaded (count : Nat)
  | schemaRejected
  | schemaProblem (text : String)
  | schemaProblems (count : Nat)
  | configurationRejected (reason : String)
  | configurationFailed (reason : String)
  | inputUnreadable (reason : String)
deriving DecidableEq, Repr

namespace Notice

def level : Notice → Level
  | .fragmentsRegistered _ => .debug
  | .shapeStarted .. => .debug
  | .generatorsChecked _ => .debug
  | .plainShapeOmitted .. => .debug
  | .runStarted _ => .info
  | .runFinished _ => .info
  | .nothingToRender => .info
  | .schemaBuilt => .info
  | .documentsLoaded _ => .info
  | .schemaRejected => .error
  | .schemaProblem _ => .error
  | .schemaProblems _ => .error
  | .configurationRejected _ => .error
  | .configurationFailed _ => .error
  | .inputUnreadable _ => .error
  | _ => .warning

def quoted (text : String) : String := "'" ++ text ++ "'"

def counted (n : Nat) : String := Json.intText n

def message : Notice → String
  | .fragmentRedefined f =>
    "Fragment " ++ quoted f ++ " is defined more than once, keeping the first definition"
  | .fragmentsRegistered n => "Registered " ++ counted n ++ " fragment(s)"
  | .fragmentCycle chain f =>
    "Fragment cycle detected: " ++ " -> ".intercalate chain ++ " -> " ++ f
      ++ ", ignoring the repeated spread"
  | .fragmentTooDeep f limit =>
    "Fragment " ++ quoted f ++ " exceeds the maximum fragment depth of " ++ counted limit
      ++ ", truncating"
  | .unknownFragment f => "Unknown fragment " ++ quoted f ++ ", skipping spread"
  | .missingField f t => "Field " ++ quoted f ++ " does not exist on type " ++ quoted t ++ ", skipping"
  | .unresolvedSpread f t =>
    "Unresolved fragment spread " ++ quoted f ++ " on " ++ quoted t ++ ", skipping"
  | .unknownCondition c t => "Unknown type condition " ++ quoted c ++ " on " ++ quoted t ++ ", skipping"
  | .impossibleCondition c t =>
    "Type condition " ++ quoted c ++ " can never apply to " ++ quoted t ++ ", skipping"
  | .notAMember c t => "Type " ++ quoted c ++ " is not a member of " ++ quoted t ++ ", skipping"
  | .noMembers path t =>
    "Field " ++ quoted path ++ " of type " ++ quoted t
      ++ " selects no members, using a minimal shape"
  | .shapeStarted name t depth =>
    "Building shape " ++ name ++ " for " ++ quoted t ++ " at depth " ++ counted depth
  | .generatorsChecked n => "Validated " ++ counted n ++ " scalar generator(s)"
  | .runStarted n => "Generating mocks for " ++ counted n ++ " document(s)"
  | .runFinished n => "Generated " ++ counted n ++ " artifact(s)"
  | .fragmentNotComposite f t =>
    "Fragment " ++ quoted f ++ " is on " ++ quoted t
      ++ ", which is not an object or interface type, skipping"
  | .anonymousOperation kind => "Skipping anonymous " ++ kind ++ " operation"
  | .rootMissing kind operation =>
    "Schema has no " ++ kind ++ " type, skipping operation " ++ quoted operation
  | .plainShapeOmitted name n =>
    name ++ " has " ++ counted n ++ " variant(s), omitting the plain shape"
  | .nothingToRender => "No artifacts to render"
  | .schemaBuilt => "Successfully built the given GraphQL schema string."
  | .documentsLoaded n => "Loaded " ++ counted n ++ " document(s)"
  | .schemaRejected => "Schema validation failed:"
  | .schemaProblem text => text
  | .schemaProblems n =>
    "Found " ++ counted n ++ " validation error(s). Please fix the schema before generating."
  | .configurationRejected reason => "Invalid configuration:" ++ reason
  | .configurationFailed reason => "Configuration error: " ++ reason
  | .inputUnreadable reason => "Failed to parse GraphQL input: " ++ reason

end Notice

/-- A result together with what was reported on the way. -/
structure Logged (α : Type) where
  value : α
  notices : List Notice
deriving Repr

namespace Logged

def pure {α : Type} (value : α) : Logged α := ⟨value, []⟩

def bind {α β : Type} (x : Logged α) (f : α → Logged β) : Logged β :=
  let y := f x.value
  ⟨y.value, x.notices ++ y.notices⟩

instance : Monad Logged where
  pure := Logged.pure
  bind := Logged.bind

def report (notice : Notice) : Logged Unit := ⟨(), [notice]⟩

@[simp] theorem value_pure {α : Type} (a : α) : (Pure.pure a : Logged α).value = a := rfl

@[simp] theorem notices_pure {α : Type} (a : α) : (Pure.pure a : Logged α).notices = [] := rfl

@[simp] theorem value_bind {α β : Type} (x : Logged α) (f : α → Logged β) :
    (x >>= f).value = (f x.value).value := rfl

@[simp] theorem notices_bind {α β : Type} (x : Logged α) (f : α → Logged β) :
    (x >>= f).notices = x.notices ++ (f x.value).notices := rfl

instance : LawfulMonad Logged := LawfulMonad.mk' Logged
  (fun _ => by simp [Functor.map, Logged.bind, Logged.pure])
  (fun _ _ => by simp [Bind.bind, Pure.pure, Logged.bind, Logged.pure])
  (fun _ _ _ => by simp [Bind.bind, Logged.bind, List.append_assoc])

end Logged

end OperationSamples
