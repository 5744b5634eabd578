import StubCompiler.Completion.Environment
import StubCompiler.Completion.Reply
import StubCompiler.Number.Decimal
import StubCompiler.Number.Shortest

/-!
# Settings

The completion service is set up from four variables.  A variable that is set to blanks counts as not
set, but it still hides the line of a file; a temperature that is no number is ignored.
-/

namespace StubCompiler

structure Settings where
  apiKey : Option Text
  model : Option Text
  baseUrl : Option Text
  temperature : Option Binary32
deriving DecidableEq, Repr

structure ServiceConfig where
  apiKey : Text
  model : Text
  baseUrl : Text
  temperature : Binary32
  /-- How long an answer may take, in milliseconds. -/
  timeout : Nat
deriving DecidableEq, Repr

namespace Settings

def ofLookup (lookup : Text → Option Text) : Settings :=
  let get (name : Text) : Option Text := (lookup name).filter fun value => !value.isBlankText
  { apiKey := get "OPENAI_API_KEY"
    model := get "OPENAI_GPT_MODEL"
    baseUrl := get "OPENAI_BASE_URL"
    temperature := (get "OPENAI_TEMPERATURE").bind fun value => Decimal.read? value.trim }

def ofEnvironment (env : Environment) : Settings := ofLookup env.get?

/-- The service that the settings describe; only the key has no default. -/
def config (s : Settings) : Except ProviderError ServiceConfig :=
  match s.apiKey with
  | none => .error .missingApiKey
  | some key =>
    .ok
      { apiKey := key
        model := s.model.getD "gpt-3.5-turbo"
        baseUrl := s.baseUrl.getD "https://api.openai.com/v1"
        temperature := s.temperature.getD .one
        timeout := 60000 }

end Settings

namespace ServiceConfig

def endpoint (config : ServiceConfig) : Text :=
  config.baseUrl.dropEnd (· == '/') ++ "/chat/completions"

/-- A service cannot be set up with a blank key. -/
def check (config : ServiceConfig) : Except ProviderError ServiceConfig :=
  if config.apiKey.isBlankText then .error .missingApiKey else .ok config

end ServiceConfig

def Settings.provider (s : Settings) : Except ProviderError ServiceConfig := do
  (← s.config).check

end StubCompiler
