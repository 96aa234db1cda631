import PayloadDepot.Bytes.Equality
import PayloadDepot.Stream.Reader

/-!
# Requests to an object store

An object store keeps objects under keys in buckets.  A large object is sent in
numbered parts between the start of an upload and its completion, which lists
the parts with the tags the store gave them.  The numbers are signed words of 32
bits.  Every request is answered or ends in a fault: the store refuses it with a
code, or cannot be reached at all.
-/

namespace PayloadDepot

inductive StoreRequest where
  | headBucket (bucket : String)
  | createBucket (bucket : String) (location : Option String)
  | putObject (bucket key : String) (body : ByteArray)
  | createUpload (bucket key : String)
  | uploadPart (bucket key upload : String) (number : Int32) (body : ByteArray)
  | completeUpload (bucket key upload : String) (parts : List (Int32 × Option String))
  | abortUpload (bucket key upload : String)
  | getObject (bucket key : String)
deriving DecidableEq

/-- What an object store answers when it serves a request. -/
inductive StoreAnswer where
  | done
  | upload (id : Option String)
  | part (tag : Option String)
  | object (body : Reader)

/-- Why a request was not served: the store refused it with a code, could not be reached, or
broke off what it was sending. -/
inductive StoreFault where
  | refused (code : String)
  | unreachable
  | brokenOff
deriving DecidableEq, Repr

namespace StoreFault

/-- The wording of a fault, followed by the wordings of what caused it. -/
def texts : StoreFault → List String
  | refused code => ["service error", code]
  | unreachable =>
      ["dispatch failure", "io error", "client error (Connect)", "tcp connect error",
        "Network is unreachable (os error 101)"]
  | brokenOff => ["streaming error"]

/-- The wording of the fault itself. -/
def message (fault : StoreFault) : String :=
  fault.texts.headD ""

end StoreFault

end PayloadDepot
