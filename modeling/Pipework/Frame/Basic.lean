import Pipework.Frame.FieldName
import Pipework.NameMap

namespace Pipework

structure Frame where
  category : String
  subtype : String
  port : String := ""
  contentType : String := ""
  extensions : NameMap String := ∅
  body : Bytes := []
deriving DecidableEq

/-- The largest header block and the largest body that a decoder takes. -/
structure Limits where
  maxBody : Nat := 16 * 1024 * 1024
  maxHeader : Nat := 64 * 1024
deriving DecidableEq, Repr

namespace Frame

def data (subtype : String) (body : Bytes) : Frame :=
  { category := "data", subtype := subtype, body := body }

def control (subtype : String) (body : Bytes) : Frame :=
  { category := "control", subtype := subtype, body := body }

/-- The frame with an extension field, under the canonical spelling of its name. -/
def withExtension (f : Frame) (name value : String) : Frame :=
  { f with extensions := f.extensions.insert (FieldName.canonicalName name) value }

def extension? (f : Frame) (name : String) : Option String :=
  f.extensions.get? (FieldName.canonicalName name)

def typeHeader (f : Frame) : String := f.category ++ "." ++ f.subtype

end Frame

end Pipework
