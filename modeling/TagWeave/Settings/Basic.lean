import TagWeave.Engine.Run
import TagWeave.Json.Shape

/-! The settings of the service, and their written form. -/
namespace TagWeave

structure Settings where
  host : Text
  port : Nat
  /-- The origins whose pages may read answers. -/
  origins : List Text
  bodyLimit : Nat
  apiKey : Option Text
  /-- How many tags one rendering may evaluate. -/
  budget : Nat
  logsJson : Bool
  deriving DecidableEq, Repr

namespace Settings

def standard : Settings := ⟨"0.0.0.0".toList, 8081, [], 65536, none, defaultBudget, false⟩

def portLimit : Nat := Nat.pow 2 16

def sizeLimit : Nat := Nat.pow 2 64

def address (settings : Settings) : Text := settings.host ++ ':' :: Text.ofNat settings.port

def serverFields : List (FieldRule × Shape) :=
  [(⟨"host", .defaulted, false⟩, .anyText), (⟨"port", .defaulted, false⟩, .natural portLimit),
   (⟨"cors_origins", .defaulted, false⟩, .list .anyText),
   (⟨"body_limit_bytes", .defaulted, false⟩, .natural sizeLimit)]

def apiFields : List (FieldRule × Shape) := [(⟨"key", .optional, true⟩, .anyText)]

def engineFields : List (FieldRule × Shape) :=
  [(⟨"max_iterations", .defaulted, false⟩, .natural sizeLimit)]

def loggingFields : List (FieldRule × Shape) := [(⟨"json", .defaulted, false⟩, .flag)]

def fields : List (FieldRule × Shape) :=
  [(⟨"server", .defaulted, false⟩, .record serverFields),
   (⟨"api", .defaulted, false⟩, .record apiFields),
   (⟨"parser", .defaulted, false⟩, .record engineFields),
   (⟨"logging", .defaulted, false⟩, .record loggingFields)]

/-- The settings in a draft that was checked; what is left out is as it is in the standard ones. -/
def ofDraft (draft : Draft) : Settings :=
  let server := draft.field fields "server"
  let api := draft.field fields "api"
  let engine := draft.field fields "parser"
  let logging := draft.field fields "logging"
  ⟨(server.field serverFields "host").text?.getD standard.host,
   (server.field serverFields "port").natural?.getD standard.port,
   ((server.field serverFields "cors_origins").items?.map (·.map Draft.asText)).getD
     standard.origins,
   (server.field serverFields "body_limit_bytes").natural?.getD standard.bodyLimit,
   (api.field apiFields "key").text?,
   (engine.field engineFields "max_iterations").natural?.getD standard.budget,
   (logging.field loggingFields "json").flag?.getD standard.logsJson⟩

def read (draft : Draft) : Except Fault Settings := draft.readAs (.record fields) ofDraft

end Settings

end TagWeave
