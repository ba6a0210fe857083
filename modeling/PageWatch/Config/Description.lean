import PageWatch.Calendar.Written
import PageWatch.Config.Settings
import PageWatch.Data.Decode

/-!
# Settings as they are written

Settings are read from structured data. What is left out keeps its default, and
the rules of each site are checked as they are read.
-/

set_option autoImplicit false

namespace PageWatch

def CrawlerSettings.ofDatum (f : DataFormat) (d : Datum) : Decoded CrawlerSettings :=
  let fields : List (Datum.Field CrawlerSettings) :=
    [("user_agent", fun s d => return { s with userAgent := ← d.asText f }),
     ("timeout_secs", fun s d => return { s with timeoutSecs := ← d.asCount f "u64" }),
     ("max_concurrent", fun s d => return { s with maxConcurrent := ← d.asCount f "usize" })]
  d.asRecord f "CrawlerConfig" fields [] {}

def ScheduleSettings.ofDatum (f : DataFormat) (d : Datum) : Decoded ScheduleSettings :=
  let fields : List (Datum.Field ScheduleSettings) :=
    [("interval_secs", fun _ d => return { intervalSecs := ← d.asCount f "u64" })]
  d.asRecord f "ScheduleConfig" fields [] {}

def NotifierSettings.ofDatum (f : DataFormat) (d : Datum) : Decoded NotifierSettings :=
  let fields : List (Datum.Field NotifierSettings) :=
    [("webhook_url", fun s d => return { s with webhookUrl := ← d.asText f }),
     ("timeout_secs", fun s d => return { s with timeoutSecs := ← d.asCount f "u64" }),
     ("template", fun s d => return { s with template := ← d.asText f })]
  d.asRecord f "NotifierConfig" fields [] {}

def TranslatorSettings.ofDatum (f : DataFormat) (d : Datum) : Decoded TranslatorSettings :=
  let fields : List (Datum.Field TranslatorSettings) :=
    [("enabled", fun s d => return { s with enabled := ← d.asBoolean f }),
     ("endpoint", fun s d => return { s with endpoint := ← d.asText f }),
     ("api_key", fun s d => return { s with apiKey := ← d.asOptionalText f }),
     ("target_language", fun s d => return { s with targetLanguage := ← d.asText f }),
     ("timeout_secs", fun s d => return { s with timeoutSecs := ← d.asCount f "u64" })]
  d.asRecord f "TranslatorConfig" fields [] {}

def StoreBackend.ofDatum (f : DataFormat) (d : Datum) : Decoded StoreBackend := do
  let i ← d.asVariant f ["file", "redis"]
  return if i = 0 then .file else .redis

def StoreSettings.ofDatum (f : DataFormat) (d : Datum) : Decoded StoreSettings :=
  let fields : List (Datum.Field StoreSettings) :=
    [("backend", fun s d => return { s with backend := ← StoreBackend.ofDatum f d }),
     ("path", fun s d => return { s with path := ← d.asText f }),
     ("url", fun s d => return { s with url := ← d.asText f }),
     ("timeout_secs", fun s d => return { s with timeoutSecs := ← d.asCount f "u64" })]
  d.asRecord f "StoreConfig" fields [] {}

def LoggingSettings.ofDatum (f : DataFormat) (d : Datum) : Decoded LoggingSettings :=
  let fields : List (Datum.Field LoggingSettings) :=
    [("level", fun _ d => return { level := ← d.asText f })]
  d.asRecord f "LoggingConfig" fields [] {}

def cutoffOfDatum (f : DataFormat) (d : Datum) : Decoded Calendar.Date :=
  match d with
  | .text s =>
    match Calendar.Date.ofText? s with
    | some day => .ok day
    | none => .error (.rejected "no date")
  | d => d.wrongType f "a formatted date string"

def RuleSet.ofDatum (f : DataFormat) (d : Datum) : Decoded RuleSet := do
  match RuleSet.ofDescription (← SiteDescription.ofDatum f d) with
  | .ok rules => return rules
  | .error e => throw (.rejected ("Validation error: " ++ e.message))

def Config.ofDatum (f : DataFormat) (d : Datum) : Decoded Config :=
  let fields : List (Datum.Field Config) :=
    [("crawler", fun c d => return { c with crawler := ← CrawlerSettings.ofDatum f d }),
     ("schedule", fun c d => return { c with schedule := ← ScheduleSettings.ofDatum f d }),
     ("cutoff", fun c d => return { c with cutoff := ← cutoffOfDatum f d }),
     ("notifier", fun c d => return { c with notifier := ← NotifierSettings.ofDatum f d }),
     ("translator", fun c d => return { c with translator := ← TranslatorSettings.ofDatum f d }),
     ("store", fun c d => return { c with store := ← StoreSettings.ofDatum f d }),
     ("logging", fun c d => return { c with logging := ← LoggingSettings.ofDatum f d }),
     ("sites", fun c d => return { c with sites := ← (← d.asList f).mapM (RuleSet.ofDatum f) })]
  d.asRecord f "Config" fields [] {}

end PageWatch
