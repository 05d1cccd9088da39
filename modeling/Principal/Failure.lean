import Principal.Text.Quoted

/-!
# Failures

What a collaborator, a strategy or a logger may raise. The kinds form two families of their own,
authentication decisions and failures to propagate an identity, beside general ones, and any kinds
may have others derived from them. Interrupts, and what is derived from interrupts alone, are the
only kinds that no recovery holds up. A failure may name the one that caused it.
-/

namespace Principal

namespace Failure

inductive Kind where
  | authentication
  | server
  | client
  | rejected
  | propagation
  | userId
  | organization
  | userStore
  | runtime
  | value
  | key
  | timeout
  | connection
  | type
  | interrupt
  | derived (name : String) (base : Kind)
  /-- Derived from two kinds. Either may itself be such a mixture, so there may be any number. -/
  | mixed (name : String) (base other : Kind)
deriving DecidableEq, Repr

namespace Kind

def name : Kind → String
  | authentication => "AuthenticationError"
  | server => "AuthServerError"
  | client => "AuthClientError"
  | rejected => "AuthenticationFailedError"
  | propagation => "ContextPropagationError"
  | userId => "UserIdUnresolvedError"
  | organization => "OrganizationResolutionError"
  | userStore => "UserStoreAccessError"
  | runtime => "RuntimeError"
  | value => "ValueError"
  | key => "KeyError"
  | timeout => "TimeoutError"
  | connection => "ConnectionError"
  | type => "TypeError"
  | interrupt => "KeyboardInterrupt"
  | derived name _ => name
  | mixed name _ _ => name

/-- The kinds that are derived from no other. -/
def all : List Kind :=
  [authentication, server, client, rejected, propagation, userId, organization, userStore,
    runtime, value, key, timeout, connection, type, interrupt]

def ofName? (s : String) : Option Kind :=
  all.find? (·.name == s)

/-- The head of the family that a kind belongs to without being its head. -/
def family? : Kind → Option Kind
  | server | client | rejected => some authentication
  | userId | organization | userStore => some propagation
  | _ => none

/-- A kind is itself, a member of its family, and whatever the kinds are that it is derived from. -/
def isA (kind ancestor : Kind) : Bool :=
  kind = ancestor ||
    match kind with
    | derived _ base => base.isA ancestor
    | mixed _ base other => base.isA ancestor || other.isA ancestor
    | kind => kind.family? = some ancestor

def isRecoverable : Kind → Bool
  | interrupt => false
  | derived _ base => base.isRecoverable
  | mixed _ base other => base.isRecoverable || other.isRecoverable
  | _ => true

theorem isA_self (kind : Kind) : kind.isA kind = true := by
  cases kind <;> simp [isA]

end Kind

end Failure

inductive Failure where
  | plain (kind : Failure.Kind) (message : String)
  | because (kind : Failure.Kind) (message : String) (cause : Failure)
deriving DecidableEq, Repr

namespace Failure

def kind : Failure → Kind
  | plain kind _ => kind
  | because kind _ _ => kind

def message : Failure → String
  | plain _ message => message
  | because _ message _ => message

def isA (e : Failure) (kind : Kind) : Bool :=
  e.kind.isA kind

def isRecoverable (e : Failure) : Bool :=
  e.kind.isRecoverable

/-- The text that a failure is shown by: a missing key is quoted, any other message is as it is. No
kind is taken to have a way of its own to show itself, which might raise in turn. -/
def text (e : Failure) : String :=
  if e.isA .key then quoted e.message else e.message

/-- The failure itself if it is of the given kind, and otherwise one of that kind which it
caused. -/
def within (e : Failure) (kind : Kind) (message : String) : Failure :=
  if e.isA kind then e else because kind (message ++ ": " ++ e.text) e

theorem isA_within (e : Failure) (kind : Kind) (message : String) :
    (e.within kind message).isA kind = true := by
  unfold within
  split
  · assumption
  · exact Kind.isA_self kind

end Failure

end Principal
