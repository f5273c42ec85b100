import Pipework.Frame.Basic
import Pipework.Frame.Error
import Pipework.Text.Edge

/-!
The wire format of frames, and the checks that keep a frame out of it which could not be read back.
A frame is written as a header block, one `Name: value` line a field, a blank line and the body.
-/

namespace Pipework.Frame

open Text

/-- Can the text be the value of a field? A value has no line breaks, and the spaces and tabs at
its edges would be lost. -/
def isFieldValue (value : String) : Bool :=
  !value.toList.any (fun c => c == '\r' || c == '\n') && !hasEdgeGap value.toList

def checkValue (name value : String) : Except FrameError Unit :=
  if isFieldValue value then .ok () else .error (.invalidHeaderValue name)

/-- Can the two texts be told apart again once they are joined by a dot? -/
def isTypePair (category subtype : String) : Bool :=
  !category.isEmpty && !subtype.isEmpty && !category.toList.contains '.' &&
    !hasEdgeGap category.toList && !hasEdgeGap subtype.toList

def checkType (category subtype : String) : Except FrameError Unit :=
  if isTypePair category subtype then do
    checkValue FieldName.typeName category
    checkValue FieldName.typeName subtype
  else .error (.invalidType category subtype)

/-- Refuses an extension field whose name is not a canonical token or is reserved, or whose value
cannot be written. -/
def checkExtension (name value : String) : Except FrameError Unit :=
  if !FieldName.isToken name then .error (.invalidHeaderName name)
  else if FieldName.isReserved name then .error (.reservedExtension name)
  else if FieldName.canonicalName name ≠ name then .error (.invalidHeaderName name)
  else checkValue name value

def check (f : Frame) : Except FrameError Unit := do
  -- the extensions are looked at in the order of their names
  checkType f.category f.subtype
  f.extensions.entries.forM fun e => checkExtension e.1 e.2
  checkValue FieldName.portName f.port
  checkValue FieldName.contentTypeName f.contentType

def fieldLine (name value : String) : Bytes := toBytes (name ++ ": " ++ value ++ "\r\n")

def fields (f : Frame) : List (String × String) :=
  [(FieldName.typeName, f.typeHeader), (FieldName.portName, f.port),
    (FieldName.contentTypeName, f.contentType),
    (FieldName.contentLengthName, toString f.body.length)] ++ f.extensions.entries

def headerBlock (f : Frame) : Bytes :=
  (f.fields.flatMap fun e => fieldLine e.1 e.2) ++ toBytes "\r\n"

/-- The wire form of a frame, whether it can be read back or not. -/
def wire (f : Frame) : Bytes := f.headerBlock ++ f.body

def encode (f : Frame) : Except FrameError Bytes := do
  f.check
  return f.wire

/-- Appends the wire form of a frame to a buffer; a refused frame leaves the buffer alone. -/
def encodeInto (buffer : Bytes) (f : Frame) : Except FrameError Bytes :=
  f.encode.map (buffer ++ ·)

end Pipework.Frame
