import PageWatch.Charset.Declared
import PageWatch.Charset.Label

/-!
# The text of a page

A byte-order mark decides the charset. Without one it is the charset of the
reply, then the one that the page declares, and then UTF-8; labels that nobody
knows do not count.
-/

set_option autoImplicit false

namespace PageWatch

structure PageText where
  text : String
  charset : Charset
  damaged : Bool
  deriving Repr, DecidableEq

namespace Charset

def afterMark? : List UInt8 → Option (Charset × List UInt8)
  | 0xEF :: 0xBB :: 0xBF :: r => some (utf8, r)
  | 0xFF :: 0xFE :: r => some (utf16 false, r)
  | 0xFE :: 0xFF :: r => some (utf16 true, r)
  | _ => none

def named (page : List UInt8) (header : Option String) : Charset :=
  match header.bind ofLabel? with
  | some c => c
  | none => ((declaredIn? page).bind ofLabel?).getD utf8

def decodePage (page : List UInt8) (header : Option String) : PageText :=
  let (charset, bytes) := (afterMark? page).getD (named page header, page)
  let out := charset.decoder.run bytes
  ⟨out.text, charset, out.hasErrors⟩

end Charset

end PageWatch
