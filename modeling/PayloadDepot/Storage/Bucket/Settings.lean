import PayloadDepot.Setup.Plan
import PayloadDepot.Storage.Bucket.Name
import PayloadDepot.Storage.Bucket.Secret

/-!
# Settings of object store depots

The options of an object store depot: its address, region and credentials, what
the names of its buckets begin with, and how large the parts of an upload are.
Exactly one source of credentials has to be given.
-/

namespace PayloadDepot

/-- How an object store depot identifies itself. -/
inductive StoreCredentials where
  | standard
  | fixed (accessKeyId : String) (secret : SecretSource)
deriving DecidableEq

namespace StoreCredentials

def shown : StoreCredentials → String
  | standard => "Default"
  | fixed accessKeyId secret =>
      "Static \x7b access_key_id: " ++ Text.quoted accessKeyId ++ ", secret_access_key: " ++
        secret.shown ++ " \x7d"

/-- Whether the standard credentials are chosen. -/
def choosesStandard (options : Options) : Except Fault Bool :=
  match options.get? Keys.credentials with
  | none => .ok false
  | some raw => if raw = "default" then .ok true else .error (.config (.credentialChoice raw))

/-- The keys of credentials under which there is an option. -/
def foundKeys (options : Options) : List String :=
  [Keys.credentials, Keys.accessKeyId, Keys.secretAccessKeyFrom].filter
    (fun key => options.contains key)

/-- The credentials that some options choose. -/
def ofOptions (options : Options) : Except Fault StoreCredentials := do
  let standardChosen ← choosesStandard options
  match standardChosen, options.get? Keys.accessKeyId, options.get? Keys.secretAccessKeyFrom with
  | true, none, none => return .standard
  | false, some accessKeyId, some source => return .fixed accessKeyId (← SecretSource.parse source)
  | _, _, _ => .error (.config (.credentialSources (foundKeys options)))

end StoreCredentials

/-- The settings of an object store depot. -/
structure StoreSettings where
  endpoint : Option String
  region : String
  bucketLead : String
  forcePathStyle : Bool
  credentials : StoreCredentials
  partSize : Nat
  createsBuckets : Bool

namespace StoreSettings

def defaultRegion : String := "us-east-1"

def defaultPartSize : Nat := 8 * 1024 * 1024

def leastPartSize : Nat := 5 * 1024 * 1024

def greatestPartSize : Nat := 5 * 1024 * 1024 * 1024

/-- Whether a text has the form of an address. -/
def isAddress (text : String) : Bool :=
  (Text.afterLeading? "http://".toList text.toList).isSome ||
    (Text.afterLeading? "https://".toList text.toList).isSome

def endpointOf (options : Options) : Except Fault (Option String) :=
  match options.get? Keys.endpoint with
  | none => .ok none
  | some address =>
      if isAddress address then .ok (some address) else .error (.config (.endpointForm address))

def partSizeOf (options : Options) : Except Fault Nat := do
  let size := (← options.unsigned? Keys.partSize).getD defaultPartSize
  if leastPartSize ≤ size ∧ size ≤ greatestPartSize then return size
  else .error (.config (.partSizeRange size leastPartSize greatestPartSize))

def ofPlan (plan : Plan) : Except Fault StoreSettings := do
  let endpoint ← endpointOf plan.options
  let partSize ← partSizeOf plan.options
  let forcePathStyle ← plan.options.boolean? Keys.forcePathStyle
  let credentials ← StoreCredentials.ofOptions plan.options
  return {
    endpoint := endpoint
    region := (plan.options.get? Keys.region).getD defaultRegion
    bucketLead := (plan.options.get? Keys.bucketPrefix).getD ""
    forcePathStyle := forcePathStyle.getD endpoint.isSome
    credentials := credentials
    partSize := partSize
    createsBuckets := plan.createsContainers }

/-- How settings are shown; a secret in them is not. -/
def shown (settings : StoreSettings) : String :=
  let endpoint :=
    match settings.endpoint with
    | none => "None"
    | some address => s!"Some({Text.quoted address})"
  "S3Settings \x7b endpoint: " ++ endpoint ++ ", region: " ++ Text.quoted settings.region ++
    ", bucket_prefix: " ++ Text.quoted settings.bucketLead ++
    s!", force_path_style: {settings.forcePathStyle}, credentials: " ++
    settings.credentials.shown ++
    s!", part_size: {settings.partSize}, create_bucket_if_missing: {settings.createsBuckets}" ++
    " \x7d"

def bucket (settings : StoreSettings) (topic : String) : String :=
  BucketName.ofTopic settings.bucketLead topic

end StoreSettings

end PayloadDepot
