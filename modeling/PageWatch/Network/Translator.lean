import PageWatch.Config.Settings
import PageWatch.Data.Decode
import PageWatch.Data.Json
import PageWatch.Network.Exchange

/-!
# The translator
-/

set_option autoImplicit false

namespace PageWatch

variable {m : Type → Type} [Monad m]

structure Translator where
  endpoint : String
  apiKey : Option String
  timeoutSecs : Nat
  deriving Repr, DecidableEq

namespace Translator

def ofSettings (s : TranslatorSettings) : Except Failure Translator :=
  match nonBlank? s.endpoint with
  | none => .error (.setup .noTranslatorEndpoint)
  | some _ => .ok ⟨s.endpoint, s.apiKey, s.timeoutSecs⟩

def payload (t : Translator) (text language : String) : Datum :=
  let key := match t.apiKey with
    | some key => [("api_key", .text key)]
    | none => []
  .table ([("q", .text text), ("source", .text "auto"), ("target", .text language),
    ("format", .text "text")] ++ key)

def request (t : Translator) (text language : String) : Request :=
  { method := .post, url := t.endpoint, timeoutSecs := t.timeoutSecs,
    body := some (t.payload text language) }

def readText (known : Option String) (d : Datum) : Decoded (Option String) :=
  match known with
  | some _ => .error (.rejected "duplicate field \x60translatedText\x60")
  | none => return some (← d.asText .json)

def textOfDatum (d : Datum) : Decoded (Option String) :=
  d.asRecord .json "TranslateResponse" [("translatedText", readText)]
    [("translatedText", (·.isSome))] none

/-- The translated text in the body of a reply. Bytes that make up no character may stand in what is
passed over, but not in what is read. -/
def textOfBody? (body : List UInt8) : Option String := do
  let text := (Charset.utf8Decoder.run body).marked Json.unreadable
  let d ← Json.readOnly? ["translatedText"] text
  ((textOfDatum d).toOption).join

def ofReply (r : Reply) : Except Failure String :=
  if r.isSuccess then
    match textOfBody? r.body with
    | none => .error (.exchange .unreadableReply)
    | some text =>
      match nonBlank? text with
      | some text => .ok text
      | none => .error (.translate "empty translation")
  else .error (.translate (r.statusText ++ ": " ++ r.text))

def translate (t : Translator) (network : Network m) (text language : String) :
    m (Except Failure String) := do
  match ← network (t.request text language) with
  | .error e => return .error (.exchange e)
  | .ok reply => return ofReply reply

end Translator

end PageWatch
