import Untrack.Failure

namespace Untrack

/-!
# Notices and events

A notice tells whoever keeps a log what happened, at one of four levels. An
event is a notice or something that reaches outside: a call for an address, or a
pause. What an activity does is a list of events in order.
-/

/-- How much a notice matters. -/
inductive Level where
  | debug
  | info
  | warn
  | error
  deriving Repr, DecidableEq

namespace Level

/-- The place of a level in the order of importance. -/
def rank : Level → Nat
  | .debug => 0
  | .info => 1
  | .warn => 2
  | .error => 3

/-- The name of a level in a log. -/
def name : Level → String
  | .debug => "DEBUG"
  | .info => "INFO"
  | .warn => "WARN"
  | .error => "ERROR"

end Level

/-- How many providers a manifest gave and what they hold together. -/
structure Tally where
  compiled : Nat
  skipped : Nat
  parameters : Nat
  redirections : Nat
  exceptions : Nat
  deriving Repr, DecidableEq

/-- What a log is told. -/
inductive Notice where
  | compilationStarted
  | builtinOverrides (name : String)
  | entrySkipped (name : String) (failure : Failure)
  | compiled (tally : Tally)
  | downloadStarted
  | tryingAddress (address : String)
  | retrying (attempt retries : Nat)
  | addressFailed (address : String) (failure : Failure)
  | emptyDownload
  | unchanged (checksum : String)
  | updated (checksum : String)
  | outdated
  | loaded (count : Nat)
  | nothingLoaded
  | keepingOld (count : Nat) (failure : Failure)
  | applying (provider : String)
  | stillEncoded (text : String)
  | alreadyShared
  | configured (config : String)
  | reported (text : String)
  deriving Repr, DecidableEq

namespace Notice

/-- The level of a notice. -/
def level : Notice → Level
  | .compilationStarted => .info
  | .builtinOverrides _ => .debug
  | .entrySkipped _ _ => .error
  | .compiled _ => .debug
  | .downloadStarted => .info
  | .tryingAddress _ => .debug
  | .retrying _ _ => .warn
  | .addressFailed _ _ => .warn
  | .emptyDownload => .warn
  | .unchanged _ => .debug
  | .updated _ => .debug
  | .outdated => .debug
  | .loaded _ => .info
  | .nothingLoaded => .warn
  | .keepingOld _ _ => .warn
  | .applying _ => .debug
  | .stillEncoded _ => .debug
  | .alreadyShared => .debug
  | .configured _ => .debug
  | .reported _ => .error

/-- The words of a notice. The time that something took is left open in them. -/
def text : Notice → String
  | .compilationStarted => "开始编译 ClearURLs 提供方..."
  | .builtinOverrides name => "内置提供方 [" ++ name ++ "] 覆盖上游定义"
  | .entrySkipped name failure =>
      "ClearURLs 提供方 [" ++ name ++ "] 校验失败，已跳过：" ++ failure.message
  | .compiled tally =>
      "编译 " ++ toString tally.compiled ++ " 个提供方（跳过 " ++
        toString tally.skipped ++ " 个），耗时 <time>：参数规则 " ++
        toString tally.parameters ++ " 条，重定向 " ++
        toString tally.redirections ++ " 条，例外 " ++
        toString tally.exceptions ++ " 条"
  | .downloadStarted => "开始拉取 ClearURLs 规则清单..."
  | .tryingAddress address => "从 " ++ address ++ " 拉取规则清单"
  | .retrying attempt retries =>
      "请求失败，正在重试（第 " ++ toString attempt ++ "/" ++
        toString retries ++ " 次）"
  | .addressFailed address failure =>
      "从 " ++ address ++ " 拉取规则清单失败：" ++ failure.message
  | .emptyDownload => "ClearURLs 规则清单响应为空"
  | .unchanged checksum => "规则清单未变化（校验和 " ++ checksum ++ "）"
  | .updated checksum => "规则清单已更新，新校验和 " ++ checksum
  | .outdated => "ClearURLs 规则已过期，开始刷新"
  | .loaded count =>
      "✅ 已加载 " ++ toString count ++ " 个 ClearURLs 提供方"
  | .nothingLoaded => "规则清单未产生任何提供方，继续使用旧列表"
  | .keepingOld count failure =>
      "拉取新的 ClearURLs 规则失败，继续使用 " ++ toString count ++
        " 个旧提供方：" ++ failure.message
  | .applying provider => "应用 ClearURLs 提供方 [" ++ provider ++ "]"
  | .stillEncoded text =>
      "解码 16 轮后仍含百分号编码，停止解码：" ++ text
  | .alreadyShared => "全局清理器已初始化，跳过重复初始化"
  | .configured config => "Using config: " ++ config
  | .reported text => text

end Notice

/-- A notice, or something that reaches outside. -/
inductive Event where
  | notice (entry : Notice)
  /-- An address was asked for its text. -/
  | call (address : String)
  /-- Nothing was done for some milliseconds. -/
  | pause (millis : Nat)
  deriving Repr, DecidableEq

namespace Event

/-- The notice of an event that is one. -/
def notice? : Event → Option Notice
  | .notice entry => some entry
  | _ => none

/-- The address that an event called for. -/
def call? : Event → Option String
  | .call address => some address
  | _ => none

/-- How long an event paused. -/
def paused : Event → Nat
  | .pause millis => millis
  | _ => 0

end Event

/-- The notices among some events, in order. -/
def notices (events : List Event) : List Notice :=
  events.filterMap Event.notice?

/-- The addresses that some events called for, in order. -/
def calls (events : List Event) : List String :=
  events.filterMap Event.call?

/-- How long some events paused together. -/
def pausedIn (events : List Event) : Nat :=
  (events.map Event.paused).foldl (· + ·) 0

end Untrack
