import Pipework.IoError
import Pipework.Text.Quoted

namespace Pipework

inductive FrameError where
  | missingHeader (name : String)
  | missingTypeSeparator (value : String)
  | emptyTypePart (value : String)
  | invalidType (category subtype : String)
  | invalidContentLength (value : String)
  | malformedHeader (line : String)
  | headerTooLarge (max : Nat)
  | bodyTooLarge (size max : Nat)
  | truncatedBody (expected received : Nat)
  | unexpectedEnd
  | invalidHeaderName (name : String)
  | invalidHeaderValue (name : String)
  | reservedExtension (name : String)
  | io (cause : IoError)
  | connectionClosed
  /-- The frame is larger than any buffer. The decoder does not report this: it breaks off. -/
  | unaddressable
deriving DecidableEq, Repr

namespace FrameError

open Text (quoted)

def message : FrameError → String
  | missingHeader name => s!"missing {name} header field"
  | missingTypeSeparator value => s!"missing separator in Type header field: {quoted value}"
  | emptyTypePart value => s!"empty category or subtype in Type header field: {quoted value}"
  | invalidType category subtype => s!"invalid frame type {quoted category}.{quoted subtype}"
  | invalidContentLength value => s!"invalid Content-Length header value: {quoted value}"
  | malformedHeader line => s!"malformed header line: {quoted line}"
  | headerTooLarge max => s!"header block too large (more than {max} bytes)"
  | bodyTooLarge size max => s!"body too large ({size} bytes, max {max})"
  | truncatedBody expected received => s!"short read: got {received} of {expected} body bytes"
  | unexpectedEnd => "unexpected end of stream inside frame header"
  | invalidHeaderName name => s!"invalid header name {quoted name}"
  | invalidHeaderValue name =>
    s!"invalid value for header {name}: line breaks and edge whitespace are not allowed"
  | reservedExtension name => s!"extension header {quoted name} collides with a reserved header"
  | io cause => s!"frame I/O error: {cause.message}"
  | connectionClosed => "connection closed"
  -- nobody sees a wording of the failure of which nobody is told
  | unaddressable => ""

def isStreamEnd (e : FrameError) : Bool := e = connectionClosed

def arisesInReading : FrameError → Bool
  | missingHeader _ | missingTypeSeparator _ | emptyTypePart _ | invalidContentLength _
  | malformedHeader _ | headerTooLarge _ | bodyTooLarge _ _ | truncatedBody _ _ | unexpectedEnd =>
    true
  | _ => false

def arisesInWriting : FrameError → Bool
  | invalidType _ _ | invalidHeaderName _ | invalidHeaderValue _ | reservedExtension _ => true
  | _ => false

end FrameError

end Pipework
