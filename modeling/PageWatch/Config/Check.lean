import PageWatch.Config.Settings

/-!
# Faults of settings

Settings without a fault can be worked with: times are positive, there is a site,
and no two sites share a name.
-/

set_option autoImplicit false

namespace PageWatch

inductive ConfigFault where
  | noUserAgent
  | noCrawlerTimeout
  | noConcurrency
  | noInterval
  | noTranslatorEndpoint
  | redisBackend
  | noSites
  | repeatedName (name : String)
  deriving Repr, DecidableEq

def noRedisMessage : String := "store.backend = \"redis\" needs the \x60redis\x60 feature"

def ConfigFault.message : ConfigFault → String
  | noUserAgent => "crawler.user_agent is empty"
  | noCrawlerTimeout => "crawler.timeout_secs must be > 0"
  | noConcurrency => "crawler.max_concurrent must be > 0"
  | noInterval => "schedule.interval_secs must be > 0"
  | noTranslatorEndpoint => "translator.endpoint is required when the translator is enabled"
  | redisBackend => noRedisMessage
  | noSites => "No sites defined"
  | repeatedName name => "duplicate site name '" ++ name ++ "'"

namespace Config

def firstRepeated? (seen : List String) : List String → Option String
  | [] => none
  | name :: rest => if seen.contains name then some name else firstRepeated? (name :: seen) rest

def fault? (c : Config) : Option ConfigFault :=
  if (nonBlank? c.crawler.userAgent).isNone then some .noUserAgent
  else if c.crawler.timeoutSecs = 0 then some .noCrawlerTimeout
  else if c.crawler.maxConcurrent = 0 then some .noConcurrency
  else if c.schedule.intervalSecs = 0 then some .noInterval
  else if c.translator.enabled ∧ (nonBlank? c.translator.endpoint).isNone then
    some .noTranslatorEndpoint
  else if c.store.backend = .redis then some .redisBackend
  else if c.sites.isEmpty then some .noSites
  else (firstRepeated? [] (c.sites.map (·.name))).map .repeatedName

end Config

end PageWatch
