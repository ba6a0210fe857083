import PageWatch.Config.Check
import PageWatch.Data.Decode
import PageWatch.Extraction.Item
import PageWatch.Files.FileError

/-!
# Failures of the program
-/

set_option autoImplicit false

namespace PageWatch

inductive ExchangeError where
  | unanswered (url : String)
  | badHeader
  | unreadableReply
  deriving Repr, DecidableEq

def ExchangeError.message : ExchangeError → String
  | unanswered url => "error sending request for url (" ++ url ++ ")"
  | badHeader => "builder error"
  | unreadableReply => "error decoding response body"

inductive StoreError where
  | foreignFile (path : String)
  | unavailable (reason : String)
  deriving Repr, DecidableEq

def StoreError.message : StoreError → String
  | foreignFile path => path ++ " is not a fingerprint file"
  | unavailable reason => reason

inductive SetupError where
  | unreadable (path : String) (e : FileError)
  | noWebhookUrl
  | noTranslatorEndpoint
  | redisBackend
  | unknownSite (name : String)
  deriving Repr, DecidableEq

def SetupError.message : SetupError → String
  | unreadable path e => "cannot read " ++ path ++ ": " ++ e.message
  | noWebhookUrl => "notifier.webhook_url is empty (set it or NEWSWATCH_WEBHOOK_URL)"
  | noTranslatorEndpoint => "translator.endpoint is empty"
  | redisBackend => noRedisMessage
  | unknownSite name => "No site named '" ++ name ++ "'"

inductive Failure where
  | file (e : FileError)
  | exchange (e : ExchangeError)
  | toml (e : Option DecodeError)
  | url (e : UrlError)
  | setup (e : SetupError)
  | config (fault : ConfigFault)
  | extraction (e : ExtractionError)
  | fetch (page reason : String)
  | notify (reason : String)
  | translate (reason : String)
  | store (e : StoreError)
  deriving Repr, DecidableEq

namespace Failure

def tomlMessage : Option DecodeError → String
  | none => "TOML parse error"
  | some e => "TOML parse error: " ++ e.message

def message : Failure → String
  | file e => "I/O error: " ++ e.message
  | exchange e => "HTTP error: " ++ e.message
  | toml e => tomlMessage e
  | url e => "URL parse error: " ++ e.message
  | setup e => "Configuration error: " ++ e.message
  | config fault => "Validation error: " ++ fault.message
  | extraction e => "Extraction error: " ++ e.message
  | fetch page reason => "Fetch error for " ++ page ++ ": " ++ reason
  | notify reason => "Notify error: " ++ reason
  | translate reason => "Translate error: " ++ reason
  | store e => "Store error: " ++ e.message

end Failure

end PageWatch
