import FlowRegistry.Format.Codec
import FlowRegistry.Text.Case

/-!
# A codec for plain text

The simplest codec: the body is the text in UTF-8, upper-cased first when the codec says so.
Empty text is refused, and a body that is not UTF-8 is reported with the place of its first bad
sequence.
-/

namespace FlowRegistry.Format

/-- A codec for text under a version, upper-casing when `upper` holds. -/
def textCodec (version : Nat) (upper : Bool) : Codec String where
  version := version
  encode s :=
    if s.isEmpty then .error (.serialization "empty value")
    else .ok (Text.encode (if upper then Text.toUpper s else s))
  decode bs :=
    match Text.decode bs with
    | .ok s => .ok s
    | .error f => .error (.serialization f.message)

end FlowRegistry.Format
