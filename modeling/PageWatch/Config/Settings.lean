import PageWatch.Calendar.Timestamp
import PageWatch.Site.RuleSet

/-!
# Settings of the program

Everything but the sites has a default.
-/

set_option autoImplicit false

namespace PageWatch

structure CrawlerSettings where
  userAgent : String := "Mozilla/5.0 (compatible; newswatch/0.1)"
  timeoutSecs : Nat := 30
  maxConcurrent : Nat := 1
  deriving Repr, DecidableEq

structure ScheduleSettings where
  intervalSecs : Nat := 120
  deriving Repr, DecidableEq

structure NotifierSettings where
  webhookUrl : String := ""
  timeoutSecs : Nat := 10
  template : String :=
    "【\x7bsite\x7d】\n\n📢 最新消息:\n➡️ \x7btitle\x7d\n\n🔗 链接: \x7blink\x7d\n📅 日期: \x7bdate\x7d"
  deriving Repr, DecidableEq

structure TranslatorSettings where
  enabled : Bool := false
  endpoint : String := ""
  apiKey : Option String := none
  targetLanguage : String := "zh"
  timeoutSecs : Nat := 10
  deriving Repr, DecidableEq

inductive StoreBackend where
  | file
  | redis
  deriving Repr, DecidableEq

structure StoreSettings where
  backend : StoreBackend := .file
  path : String := "data/fingerprints.json"
  url : String := "redis://127.0.0.1:6379/0"
  timeoutSecs : Nat := 5
  deriving Repr, DecidableEq

structure LoggingSettings where
  level : String := "info"
  deriving Repr, DecidableEq

def firstCutoff : Calendar.Date := ⟨2024, 10, 24, rfl⟩

structure Config where
  crawler : CrawlerSettings := {}
  schedule : ScheduleSettings := {}
  cutoff : Calendar.Date := firstCutoff
  notifier : NotifierSettings := {}
  translator : TranslatorSettings := {}
  store : StoreSettings := {}
  logging : LoggingSettings := {}
  sites : List RuleSet := []

def Config.cutoffTime (c : Config) : Calendar.Timestamp := .midnight c.cutoff

end PageWatch
