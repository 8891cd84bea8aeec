/-
The providers of completion services, with the models that they offer.
-/

namespace Toolsmith

/-- A model, with the identifier that the service knows it by. -/
structure Model where
  id : String
  name : String
  free : Bool
  deriving DecidableEq, Repr

/-- The providers of completion services. -/
inductive Provider where
  | openai
  | gemini
  | openrouter
  deriving DecidableEq, Repr

namespace Provider

/-- All providers. -/
def all : List Provider := [openai, gemini, openrouter]

/-- The word for a provider. -/
def name : Provider → String
  | openai => "openai"
  | gemini => "gemini"
  | openrouter => "openrouter"

/-- The provider that a word names. -/
def ofName? (name : String) : Option Provider :=
  all.find? fun p => p.name == name

/-- What a provider calls itself. -/
def displayName : Provider → String
  | openai => "OpenAI"
  | gemini => "Google Gemini"
  | openrouter => "OpenRouter"

/-- What a provider offers. -/
def description : Provider → String
  | openai => "GPT-4o and other OpenAI models"
  | gemini => "Google's Gemini models"
  | openrouter => "Access to multiple AI models via OpenRouter"

/-- What the credential of a provider is called. -/
def credential : Provider → String
  | openai => "OpenAI API Key"
  | gemini => "Gemini API Key"
  | openrouter => "OpenRouter API Key"

/-- The model that is used unless another one is chosen. -/
def defaultModel : Provider → String
  | openai => "gpt-4o"
  | gemini => "gemini-2.0-flash"
  | openrouter => "mistralai/mistral-small-3.2-24b-instruct:free"

/-- The models of a provider. -/
def models : Provider → List Model
  | openai =>
    [⟨"gpt-4o", "GPT-4o", false⟩, ⟨"gpt-4o-mini", "GPT-4o Mini", false⟩,
     ⟨"gpt-3.5-turbo", "GPT-3.5 Turbo", false⟩]
  | gemini =>
    [⟨"gemini-2.0-flash", "Gemini 2.0 Flash", false⟩,
     ⟨"gemini-1.5-pro", "Gemini 1.5 Pro", false⟩]
  | openrouter =>
    [⟨"mistralai/mistral-small-3.2-24b-instruct:free",
      "Mistral Small (Free)", true⟩,
     ⟨"microsoft/phi-3-mini-128k-instruct:free", "Phi-3 Mini (Free)", true⟩,
     ⟨"gpt-3.5-turbo", "GPT-3.5 Turbo", false⟩,
     ⟨"gpt-4o-mini", "GPT-4o Mini", false⟩,
     ⟨"anthropic/claude-3-haiku", "Claude 3 Haiku", false⟩,
     ⟨"google/gemini-flash-1.5", "Gemini Flash 1.5", false⟩,
     ⟨"meta-llama/llama-3.1-8b-instruct:free", "Llama 3.1 8B (Free)", true⟩,
     ⟨"qwen/qwen-2-7b-instruct:free", "Qwen 2 7B (Free)", true⟩]

/-- The model as a service knows it, with the provider in front where the
service needs one. -/
def route (p : Provider) (model : String) : String :=
  match p with
  | openai => model
  | gemini => "gemini/" ++ model
  | openrouter => "openrouter/" ++ model

end Provider

end Toolsmith
