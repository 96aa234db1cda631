import PayloadDepot.Host.IoFault
import PayloadDepot.Json.Basic
import PayloadDepot.Setup.Keys
import PayloadDepot.Storage.Bucket.Exchange
import PayloadDepot.Text.Quoted
import PayloadDepot.Text.Utf8

/-!
# Faults

Everything that can go wrong, by cause.  A fault has a kind, which tells a
caller how to react, a wording, and a chain of the wordings of what caused it.
-/

namespace PayloadDepot

/-- How a caller may react to a fault: correct the settings, try again later, mend the call, or
mend the data. -/
inductive FaultKind where
  | configuration
  | storage
  | contract
  | coding
deriving DecidableEq, Repr

/-- Settings that are missing, that do not have their form, or that do not go together. -/
inductive ConfigFault where
  | missing (key : String)
  | notUnsigned (raw key : String)
  | notBoolean (raw key : String)
  | unknownDepot (text : String)
  | unregisteredDepot (kind : DepotKind)
  | unknownSerializer (id : String)
  | unknownDeserializer (id : String)
  | unsealed (component : String)
  | wrapsItself
  | restoredTwice
  | rootNotDirectory (root : String)
  | unsetVariable (name : String)
  | unreadableSecret (path : String) (fault : IoFault)
  | secretSource
  | credentialChoice (raw : String)
  | credentialSources (found : List String)
  | endpointForm (raw : String)
  | partSizeRange (size least greatest : Nat)
  | other (text : String)
deriving DecidableEq, Repr

namespace ConfigFault

def message : ConfigFault → String
  | missing key => s!"Missing required configuration \"{key}\""
  | notUnsigned raw key =>
      s!"Invalid value {raw} for configuration {key}: expected an unsigned integer"
  | notBoolean raw key => s!"Invalid value {raw} for configuration {key}: expected true or false"
  | unknownDepot text =>
      s!"Unknown claim check backend \"{text}\", expected one of memory, filesystem, s3"
  | unregisteredDepot kind => s!"Claim check backend not registered: {kind.name}"
  | unknownSerializer id => s!"Serializer not registered: {id}"
  | unknownDeserializer id => s!"Deserializer not registered: {id}"
  | unsealed component =>
      s!"{component} must be used with {Keys.claimCheckCodec} as {Keys.valueSerializer} " ++
        "to guarantee propagation of exceptions to the client"
  | wrapsItself =>
      s!"{Keys.wrappedValueSerializer} must name the serializer to wrap, " ++
        s!"not {Keys.claimCheckCodec}"
  | restoredTwice =>
      "DeserializingClaimCheckConsumerInterceptor must not be used with " ++
        s!"{Keys.claimCheckCodec} as {Keys.valueDeserializer}"
  | rootNotDirectory root => s!"Claim check root is not a directory: {root}"
  | unsetVariable name => s!"{name} environment variable required"
  | unreadableSecret path fault => s!"could not read secret from {path}: {fault.text}"
  | secretSource =>
      s!"Invalid value for configuration {Keys.secretAccessKeyFrom}: " ++
        "expected value:<secret>, env:<VAR> or path:<file>"
  | credentialChoice raw =>
      s!"Invalid value {raw} for configuration {Keys.credentials}: expected default"
  | credentialSources found =>
      s!"Exactly one credential source is required: either {Keys.credentials} = default, " ++
        s!"or {Keys.accessKeyId} with {Keys.secretAccessKeyFrom}; " ++
        "found [" ++ String.intercalate ", " found ++ "]"
  | endpointForm raw =>
      s!"Invalid value {raw} for configuration {Keys.endpoint}: expected an http or https URL"
  | partSizeRange size least greatest =>
      s!"Invalid value {size} for configuration {Keys.partSize}: " ++
        s!"must be between {least} and {greatest}"
  | other text => text

end ConfigFault

/-- What a depot could not do. -/
inductive StorageFault where
  | containerMissing (container : String)
  | claimMissing (reference : String)
  | containerNotCreated (container : String)
  | blobNotCreated (path : String)
  | blobNotOpened (path : String)
  | bucketNotChecked (bucket : String)
  | bucketNotCreated (bucket : String)
  | objectNotUploaded (location : String)
  | uploadNotStarted (location : String)
  | uploadWithoutId
  | partNotUploaded (number : Int32)
  | uploadNotCompleted (location : String)
  | claimNotDownloaded (reference : String)
  | claimNotRead (reference : String)
  | other (text : String)
deriving DecidableEq, Repr

namespace StorageFault

def message : StorageFault → String
  | containerMissing container => s!"container does not exist: {container}"
  | claimMissing reference => s!"claim check not found: {reference}"
  | containerNotCreated container => s!"could not create container {container}"
  | blobNotCreated path => s!"could not create {path}"
  | blobNotOpened path => s!"could not open {path}"
  | bucketNotChecked bucket => s!"could not check bucket {bucket}"
  | bucketNotCreated bucket => s!"could not create bucket {bucket}"
  | objectNotUploaded location => s!"could not upload {location}"
  | uploadNotStarted location => s!"could not start upload of {location}"
  | uploadWithoutId => "multipart upload started without an upload id"
  | partNotUploaded number => s!"could not upload part {number}"
  | uploadNotCompleted location => s!"could not complete upload of {location}"
  | claimNotDownloaded reference => s!"could not download {reference}"
  | claimNotRead reference => s!"could not read {reference}"
  | other text => text

end StorageFault

/-- What caused a fault of a depot. -/
inductive StorageCause where
  | io (fault : IoFault)
  | store (fault : StoreFault)
  | texts (chain : List String)
deriving DecidableEq, Repr

namespace StorageCause

/-- The wordings of a cause and of what caused it in turn. -/
def chain : StorageCause → List String
  | io fault => fault.texts
  | store fault => fault.texts
  | texts chain => chain

end StorageCause

/-- A caller that does not keep to what was agreed. -/
inductive ContractFault where
  | lengthTooLarge (length : Nat)
  | lengthMissing (header : String)
  | lengthWidth (header : String) (width : Nat)
  | lengthNegative (header : String) (length : Int)
  | referenceEncoding (fault : Text.Utf8.Fault)
  | streamShort (delivered declared : Nat)
  | valueShort (declared : Nat)
  | partShort (delivered : Nat)
  | containerName (name : String)
  | other (text : String)
deriving DecidableEq, Repr

namespace ContractFault

def message : ContractFault → String
  | lengthTooLarge length =>
      s!"payload size {length} does not fit in a signed 64-bit integer"
  | lengthMissing header => s!"You must supply the '{header}' header in streaming mode"
  | lengthWidth header width => s!"'{header}' header must be 8 bytes, got {width}"
  | lengthNegative header length => s!"'{header}' header must not be negative, got {length}"
  | referenceEncoding fault => s!"claim check reference is not UTF-8: {fault.message}"
  | streamShort delivered declared =>
      s!"stream ended after {delivered} of the declared {declared} bytes"
  | valueShort declared =>
      s!"stream ended before the declared payload size of {declared} bytes"
  | partShort delivered =>
      s!"stream ended after {delivered} bytes, before the declared payload size"
  | containerName name => s!"invalid container or blob name: {Text.quoted name}"
  | other text => text

end ContractFault

/-- What a codec could not write or read. -/
inductive CodingFault where
  | encoding (fault : Text.Utf8.Fault)
  | json (fault : Json.Fault)
  | other (text : String) (chain : List String)
deriving DecidableEq, Repr

namespace CodingFault

def message : CodingFault → String
  | encoding fault => fault.message
  | json fault => fault.message
  | other text _ => text

/-- The wordings of what caused a codec to fail. -/
def chain : CodingFault → List String
  | encoding fault => [fault.message]
  | json fault => [fault.message]
  | other _ chain => chain

end CodingFault

/-- Anything that can go wrong. -/
inductive Fault where
  | config (detail : ConfigFault)
  | storage (detail : StorageFault) (cause : Option StorageCause)
  | badReference (reference : String)
  | contract (detail : ContractFault)
  | externalization (description : String)
  | coding (detail : CodingFault)
  | io (fault : IoFault)
deriving DecidableEq, Repr

namespace Fault

/-- A fault of a depot that nothing else caused. -/
def depot (detail : StorageFault) : Fault :=
  .storage detail none

/-- A fault of a depot that another fault caused. -/
def depotBy (detail : StorageFault) (cause : StorageCause) : Fault :=
  .storage detail (some cause)

def kind : Fault → FaultKind
  | config _ => .configuration
  | storage _ _ => .storage
  | badReference _ => .storage
  | contract _ => .contract
  | externalization _ => .storage
  | coding _ => .coding
  | io _ => .storage

def message : Fault → String
  | config detail => "Invalid configuration: " ++ detail.message
  | storage detail _ => "Claim check backend error: " ++ detail.message
  | badReference reference => "Bad claim check reference: " ++ reference
  | contract detail => "Contract violation: " ++ detail.message
  | externalization description => "Claim check interceptor error:\n" ++ description
  | coding detail => "Serialization error: " ++ detail.message
  | io fault => "I/O error: " ++ fault.text

/-- The wordings of what caused a fault, the nearest cause first. -/
def chain : Fault → List String
  | storage _ (some cause) => cause.chain
  | coding detail => detail.chain
  | io fault => fault.texts
  | _ => []

/-- Whether a fault is about a reference that no depot of the kind could have issued. -/
def isBadReference : Fault → Bool
  | badReference _ => true
  | _ => false

end Fault

end PayloadDepot
