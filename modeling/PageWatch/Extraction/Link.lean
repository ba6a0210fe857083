import PageWatch.Text.Substring
import PageWatch.Url.Parse

/-!
# Links of items

A link with a scheme is kept as it stands. Any other is put behind a fixed prefix
or behind the path of the site, which then occurs once.
-/

set_option autoImplicit false

namespace PageWatch

structure LinkError where
  input : String
  reason : UrlError
  deriving Repr, DecidableEq

namespace Link

/-- The base path once, and then the link from its first slash on without further copies of the
base path. -/
def joinOnce (basePath link : List Char) : List Char :=
  let tail := link.dropWhile (· ≠ '/')
  let cleaned := if tail.isEmpty then link else tail
  let base := (basePath.reverse.dropWhile (· == '/')).reverse
  let joined := base ++ '/' :: cleaned.dropWhile (· == '/')
  if base.isEmpty then joined else base ++ Text.replaceAll base [] joined

def origin (base : Url) (host : Url.Host) : List Char :=
  let number := match base.portNumber with
    | some n => ':' :: Text.decimal n
    | none => []
  base.scheme ++ "://".toList ++ host.text ++ number

def resolve (base : String) (realUrl : Option String) (link : String) :
    Except LinkError String := do
  let baseUrl ← (Url.parse base).mapError (⟨base, ·⟩)
  match Url.parse link with
  | .ok _ => return link
  | .error .noBase =>
    (baseUrl.checkRelative link).mapError (⟨link, ·⟩)
    match realUrl.filter (!·.isEmpty) with
    | some lead => return lead ++ link
    | none =>
      match baseUrl.host with
      | none => throw ⟨base, .emptyHost⟩
      | some host =>
        return String.ofList (origin baseUrl host ++ joinOnce baseUrl.path link.toList)
  | .error reason => throw ⟨link, reason⟩

end Link

end PageWatch
