import PageWatch.Config.Settings
import PageWatch.Data.Decode
import PageWatch.Data.Json
import PageWatch.Network.Exchange
import PageWatch.Text.Blank

/-!
# Webhooks

A message is posted to a webhook. The service behind it may accept the request and
still reject the message, which it says by a code in the body of its reply.
-/

set_option autoImplicit false

namespace PageWatch

variable {m : Type → Type} [Monad m]

structure Verdict where
  code : Option Int := none
  message : Option String := none
  deriving Repr, DecidableEq

namespace Verdict

def asCode (d : Datum) : Decoded Int :=
  match d with
  | .integer n =>
    if Datum.isSigned n then .ok n else .error (.wrongValue (d.describe .json) "i64")
  | d => d.wrongType .json "i64"

def readCode (v : Verdict) (d : Datum) : Decoded Verdict :=
  match v.code with
  | some _ => .error (.rejected "duplicate field \x60code\x60")
  | none => return { v with code := some (← asCode d) }

def readMessage (v : Verdict) (d : Datum) : Decoded Verdict :=
  match v.message with
  | some _ => .error (.rejected "duplicate field \x60msg\x60")
  | none => return { v with message := some (← d.asText .json) }

def entryFields : List (Datum.Field Verdict) :=
  [("code", readCode), ("StatusCode", readCode), ("msg", readMessage),
   ("StatusMessage", readMessage)]

def placeFields : List (Datum.Field Verdict) := [("code", readCode), ("msg", readMessage)]

def ofDatum (d : Datum) : Decoded Verdict :=
  let fields := match d with
    | .list _ => placeFields
    | _ => entryFields
  d.asRecord .json "WebhookReply" fields [] {}

def ofText? (body : String) : Option Verdict :=
  (Json.readOnly? (entryFields.map (·.1)) body.toList).bind fun d => (ofDatum d).toOption

end Verdict

/-- A body with a code other than zero is a rejection. Bodies that cannot be read are none. -/
def checkReply (body : String) : Except Failure Unit :=
  match Verdict.ofText? body with
  | none => .ok ()
  | some v =>
    let code := v.code.getD 0
    if code = 0 then .ok ()
    else .error (.notify ("webhook rejected message (code " ++ toString code ++ "): " ++
      v.message.getD ""))

structure Webhook where
  url : String
  timeoutSecs : Nat
  deriving Repr, DecidableEq

namespace Webhook

def ofSettings (s : NotifierSettings) : Except Failure Webhook :=
  match nonBlank? s.webhookUrl with
  | none => .error (.setup .noWebhookUrl)
  | some url =>
    match Url.parse url with
    | .error e => .error (.url e)
    | .ok _ => .ok ⟨url, s.timeoutSecs⟩

def payload (message : String) : Datum :=
  .table [("msg_type", .text "text"), ("content", .table [("text", .text message)])]

def request (h : Webhook) (message : String) : Request :=
  { method := .post, url := h.url, timeoutSecs := h.timeoutSecs, body := some (payload message) }

def ofReply (r : Reply) : Except Failure Unit :=
  if r.isSuccess then checkReply r.text
  else .error (.notify ("webhook returned " ++ r.statusText ++ ": " ++ r.text))

def send (h : Webhook) (network : Network m) (message : String) : m (Except Failure Unit) := do
  match ← network (h.request message) with
  | .error e => return .error (.exchange e)
  | .ok reply => return ofReply reply

end Webhook

end PageWatch
