/-! What can go wrong, and how it is worded. -/
namespace Courier

instance decidableEqExcept {ε α : Type} [DecidableEq ε] [DecidableEq α] :
    DecidableEq (Except ε α)
  | .ok a, .ok b => decidable_of_iff (a = b) ⟨congrArg _, Except.ok.inj⟩
  | .error e, .error e' => decidable_of_iff (e = e') ⟨congrArg _, Except.error.inj⟩
  | .ok _, .error _ | .error _, .ok _ => isFalse nofun

/-- A request to the broker, or the way to it, failed. -/
inductive BrokerError where
  | connection
  | channel
  | confirmSelect
  | declareExchange (name : String)
  | declareQueue (name : String)
  | bindQueue (exchange queue : String)
  | bindConsumer (queue : String)
  | publishing
  | confirmTimeout
  | confirm (reason : String)
  | ack
  | nack
  | qos (reason : String)
  | consumer (reason : String)
  deriving DecidableEq

def BrokerError.message : BrokerError → String
  | .connection => "failure to connect"
  | .channel => "failure to create a channel"
  | .confirmSelect => "failure to enable publisher confirms"
  | .declareExchange name => "failure to declare an exchange `" ++ name ++ "`"
  | .declareQueue name => "failure to declare a queue `" ++ name ++ "`"
  | .bindQueue exchange queue =>
    "failure to binding exchange `" ++ exchange ++ "` to queue `" ++ queue ++ "`"
  | .bindConsumer queue => "failure to declare consumer `" ++ queue ++ "`"
  | .publishing => "failure to publish"
  | .confirmTimeout => "timed out waiting for publisher confirms"
  | .confirm reason => "publisher confirm failed `" ++ reason ++ "`"
  | .ack => "failure to ack message"
  | .nack => "failure to nack message"
  | .qos reason => "failure to configure qos `" ++ reason ++ "`"
  | .consumer reason => "failure to consume message `" ++ reason ++ "`"

/-- The body of a message is no envelope. -/
inductive EnvelopeError where
  | malformed (reason : String)
  | blankId
  deriving DecidableEq

def EnvelopeError.message : EnvelopeError → String
  | .malformed reason => "malformed envelope: " ++ reason
  | .blankId => "envelope id is blank"

/-- A contract or an address is unfit to be declared. -/
inductive ContractFault where
  | blankModule
  | blankQueue
  | notADate (text : String)
  | namedDefault (name : String)
  | unnamed (kind : String)
  | blankAddress (owner : String)
  deriving DecidableEq

def ContractFault.message : ContractFault → String
  | .blankModule => "module name must not be blank"
  | .blankQueue => "queue name must not be blank"
  | .notADate text => "business date `" ++ text ++ "` is not a YYYY-MM-DD date"
  | .namedDefault name => "the default exchange must be unnamed, got `" ++ name ++ "`"
  | .unnamed kind => "a " ++ kind ++ " exchange requires a name"
  | .blankAddress owner => "`" ++ owner ++ "` resolves to a blank address"

/-- A contract could not be declared or registered. -/
inductive TopologyError where
  | invalidContract (reason : String)
  | typeMismatch (expected actual : String)
  | duplicateAddress (address owner : String)
  | broker (error : BrokerError)
  deriving DecidableEq

def TopologyError.message : TopologyError → String
  | .invalidContract reason => "invalid handler contract: " ++ reason
  | .typeMismatch expected actual =>
    "exchange expects payload `" ++ expected ++ "` but contract carries `" ++ actual ++ "`"
  | .duplicateAddress address owner =>
    "address `" ++ address ++ "` is already registered by `" ++ owner ++ "`"
  | .broker error => error.message

def ContractFault.error (fault : ContractFault) : TopologyError := .invalidContract fault.message

/-- A payload could not be published. -/
inductive PublishError where
  | typeMismatch (expected actual : String)
  | unsupportedExchangeKind (kind : String)
  | serialize (reason : String)
  | notConfirmed (reason : String)
  | broker (error : BrokerError)
  deriving DecidableEq

def PublishError.message : PublishError → String
  | .typeMismatch expected actual =>
    "exchange expects payload `" ++ expected ++ "` but got `" ++ actual ++ "`"
  | .unsupportedExchangeKind kind =>
    "exchange kind `" ++ kind ++ "` does not support broadcast publishing"
  | .serialize reason => "failure to serialize envelope: " ++ reason
  | .notConfirmed reason => "message was not confirmed by the broker: " ++ reason
  | .broker error => error.message

/-- A handler refuses a payload, for now or for good. -/
inductive HandlerError where
  | failed (reason : String)
  | malformed (reason : String)
  deriving DecidableEq

def HandlerError.message : HandlerError → String
  | .failed reason => reason
  | .malformed reason => "malformed payload: " ++ reason

inductive SettingsError where
  | blank (field : String)
  | invalidPort
  deriving DecidableEq

def SettingsError.message : SettingsError → String
  | .blank field => "configuration field `" ++ field ++ "` must not be blank"
  | .invalidPort => "configuration field `port` must be greater than zero"

end Courier
