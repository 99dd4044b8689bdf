import Untrack.Json.Fault
import Untrack.Pattern.Atom

namespace Untrack

/-!
# Failures

Everything that can go wrong, by cause. `Failure.message` holds all the wording,
and `Failure.kind` sorts the causes into the kinds that a caller tells apart.
-/

/-- Why the text of a manifest cannot be used. -/
inductive ManifestFault where
  | unreadable (fault : Json.Fault)
  | withoutProviders
  | emptyProviders
  | providersNotObject
  deriving Repr, DecidableEq

/-- Why the definition of a provider cannot be used. -/
inductive DefinitionFault where
  | shape (cause : Json.Cause)
  | redirectionWithoutGroup (text : String)
  deriving Repr, DecidableEq

/-- The step at which a request failed. -/
inductive RequestStep where
  | build
  | send
  | redirect
  | body
  deriving Repr, DecidableEq

/-- Why rules could not be downloaded, other than a failed request. -/
inductive NetworkFault where
  | noAddress
  | status (address line : String)
  | other (text : String)
  deriving Repr, DecidableEq

/-- What went wrong. -/
inductive Failure where
  | manifest (fault : ManifestFault)
  | definition (provider : String) (fault : DefinitionFault)
  | pattern (fault : Pattern.Fault)
  /-- A link could not be cleaned, for no rules could be loaded. -/
  | notLoaded (link : String) (cause : Failure)
  /-- A link could not be cleaned, for there are no rules. -/
  | nothingLoaded (link : String)
  | request (step : RequestStep) (address : Option String)
  | network (fault : NetworkFault)
  | withoutLink (text : String)
  deriving Repr, DecidableEq

/-- The kinds of failures. -/
inductive Failure.Kind where
  | manifestFormat
  | providerValidation
  | patternCompilation
  | noProviders
  | http
  | network
  | invalidInput
  deriving Repr, DecidableEq

/-- The words for a fault of a manifest. -/
def ManifestFault.message : ManifestFault → String
  | .unreadable fault => "无法解析规则清单：" ++ fault.message
  | .withoutProviders => "缺少 `providers` 字段"
  | .emptyProviders => "`providers` 为空"
  | .providersNotObject => "`providers` 不是对象"

/-- The words for a fault of a definition. -/
def DefinitionFault.message : DefinitionFault → String
  | .shape cause => cause.message
  | .redirectionWithoutGroup text => "重定向模式缺少捕获组：" ++ text

/-- The words for a failed step of a request. -/
def RequestStep.message : RequestStep → String
  | .build => "builder error"
  | .send => "error sending request"
  | .redirect => "error following redirect"
  | .body => "error decoding response body"

/-- The words for a fault of the network. -/
def NetworkFault.message : NetworkFault → String
  | .noAddress => "未配置任何规则清单地址"
  | .status address line =>
      "URL " ++ address ++ " 返回状态码 " ++ line
  | .other text => text

/-- The words for a fault of a pattern. -/
def Pattern.Fault.message : Pattern.Fault → String
  | .unclosedGroup => "unclosed group"
  | .unopenedGroup => "unopened group"
  | .nothingToRepeat => "nothing to repeat"
  | .badCount => "malformed repetition count"
  | .badEscape => "malformed escape"
  | .badClass => "malformed class"
  | .badFlags => "malformed flags"
  | .badGroupName => "malformed group name"
  | .lookAround => "look-around is not supported"
  | .partOfCharacter => "could match a part of a character"
  | .tooDeep => "nested too deeply"
  | .tooLarge => "too large when compiled"

namespace Failure

/-- The kind of a failure. -/
def kind : Failure → Kind
  | .manifest _ => .manifestFormat
  | .definition _ _ => .providerValidation
  | .pattern _ => .patternCompilation
  | .notLoaded _ _ => .noProviders
  | .nothingLoaded _ => .noProviders
  | .request _ _ => .http
  | .network _ => .network
  | .withoutLink _ => .invalidInput

/-- The words that come before a failed pattern. -/
def patternHeading : String := "正则编译失败："

/-- The words for a failure. -/
def message : Failure → String
  | .manifest fault => "规则清单格式错误：" ++ fault.message
  | .definition provider fault =>
      "规则提供方 [" ++ provider ++ "] 校验失败：" ++ fault.message
  | .pattern fault => patternHeading ++ fault.message
  | .notLoaded link cause =>
      "无可用规则提供方：清理链接 " ++ link ++ " 的追踪参数失败：" ++
        cause.message
  | .nothingLoaded link =>
      "无可用规则提供方：清理链接 " ++ link ++
        " 的追踪参数失败：没有可用的 ClearURLs 提供方"
  | .request step address =>
      "网络请求失败：" ++ step.message ++
        (address.map fun address => " for url (" ++ address ++ ")").getD ""
  | .network fault => "网络相关错误：" ++ fault.message
  | .withoutLink text => "无效输入：文本中没有可提取的链接：" ++ text

end Failure

end Untrack
