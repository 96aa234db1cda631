/-!
# Names of settings

The keys under which settings are looked up, and the identifiers that have a
fixed meaning as values.
-/

namespace PayloadDepot

namespace Keys

/-- The greatest estimated size of a record whose value stays in the record. -/
def threshold : String := "claimcheck.checkin.uncompressed-batch-size.over.bytes"

def depot : String := "claimcheck.backend"

def createContainers : String := "claimcheck.backend.create-container-if-missing"

def keySerializer : String := "key.serializer"

def valueSerializer : String := "value.serializer"

/-- The serializer that the sealing serializer of values wraps. -/
def wrappedValueSerializer : String := "value.serializer.wrapped.serializer"

def keyDeserializer : String := "key.deserializer"

def valueDeserializer : String := "value.deserializer"

/-- The deserializer that the restoring deserializer of values wraps. -/
def wrappedValueDeserializer : String := "value.deserializer.wrapped.deserializer"

def fileSystemRoot : String := "claimcheck.filesystem.root"

def endpoint : String := "claimcheck.s3.endpoint"

def region : String := "claimcheck.s3.region"

/-- What the names of all buckets begin with. -/
def bucketPrefix : String := "claimcheck.s3.bucket-prefix"

/-- Whether buckets are addressed by path. -/
def forcePathStyle : String := "claimcheck.s3.force-path-style"

def credentials : String := "claimcheck.s3.credentials"

/-- The identifier of static credentials. -/
def accessKeyId : String := "claimcheck.s3.access-key-id"

/-- Where the secret of static credentials comes from. -/
def secretAccessKeyFrom : String := "claimcheck.s3.secret-access-key.from"

/-- The greatest size of one part of an upload. -/
def partSize : String := "claimcheck.s3.multipart.part-size.bytes"

/-- The identifier of the serializer and of the deserializers that complete a claim check. -/
def claimCheckCodec : String := "claimcheck"

end Keys

inductive DepotKind where
  | memory
  | fileSystem
  | objectStore
deriving DecidableEq, Repr

namespace DepotKind

def name : DepotKind → String
  | memory => "memory"
  | fileSystem => "filesystem"
  | objectStore => "s3"

end DepotKind

end PayloadDepot
