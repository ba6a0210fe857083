import PageWatch.Charset.Unicode
import PageWatch.Config.Description
import PageWatch.Data.Toml
import PageWatch.Failure

/-!
# Loading settings

A text is read, settings from the environment replace those of the text, and what
results must be without fault.
-/

set_option autoImplicit false

namespace PageWatch

/-- Settings that the environment may replace. -/
structure Overrides where
  webhookUrl : Option String := none
  translatorKey : Option String := none
  storeUrl : Option String := none
  deriving Repr, DecidableEq

namespace Config

def withOverrides (o : Overrides) (c : Config) : Config :=
  { c with
    notifier.webhookUrl := o.webhookUrl.getD c.notifier.webhookUrl
    translator.apiKey := o.translatorKey.or c.translator.apiKey
    store.url := o.storeUrl.getD c.store.url }

def check (c : Config) : Except Failure Config :=
  match c.fault? with
  | some fault => .error (.config fault)
  | none => .ok c

/-- The settings that a text describes, which may still be at fault. -/
def ofText (text : String) : Except Failure Config :=
  match Toml.read? text.toList with
  | none => .error (.toml none)
  | some d => (Config.ofDatum .toml d).mapError fun e => .toml (some e)

def fileText (path : String) (content : Except FileError (List UInt8)) : Except Failure String :=
  match content with
  | .error e => .error (.setup (.unreadable path e))
  | .ok bytes =>
    let out := Charset.utf8Decoder.run bytes
    if out.hasErrors then .error (.setup (.unreadable path .badText)) else .ok out.text

def load (path : String) (content : Except FileError (List UInt8)) (o : Overrides) :
    Except Failure Config := do
  let c ← ofText (← fileText path content)
  (c.withOverrides o).check

end Config

end PageWatch
