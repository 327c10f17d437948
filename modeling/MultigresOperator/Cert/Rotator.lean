import MultigresOperator.Lib.Checks
import MultigresOperator.Lib.Prog
import MultigresOperator.Lib.Table
import Mathlib.Data.Finset.Card

/-!
# Certificate rotation

The rotator keeps a CA Secret and a server Secret. A pass reads each of them and keeps it, recreates it
if it is corrupt, or rotates it if it is about to expire; a server certificate is also rotated if it is
not from the CA or not for the wanted names. A Secret that is kept is not checked as a whole: the pass
looks at the CA's key without comparing it to the certificate, and never looks at the server's key.

## Main results

* `Crypto.generateCA_spec`, `Crypto.generateServerCert_spec`: what the generator makes
* `dnsNameSetsEqual_iff`: the comparison of names
-/

namespace MultigresOperator.Cert

open Effects

/-! ### Certificates -/

/-- `x509.Certificate`. `otherNames` are the mail addresses and URIs, `mayIssue` says that the
certificate is that of a CA. -/
structure Certificate (Bytes Pub : Type) where
  raw : Bytes
  notAfter : ℤ
  dnsNames : List String
  ipAddresses : List String
  otherNames : List String
  publicKey : Pub
  mayIssue : Bool

inductive KeyUsage
  | certSign
  | digitalSignature
  | keyEncipherment

inductive ExtKeyUsage
  | serverAuth
  | clientAuth

/-- The certificate that is to be created. Times are in seconds. -/
structure CertTemplate where
  serialNumber : ℕ
  commonName : String
  organization : String
  dnsNames : List String := []
  ipAddresses : List String := []
  notBefore : ℤ
  notAfter : ℤ
  keyUsage : List KeyUsage
  extKeyUsage : List ExtKeyUsage
  isCA : Bool := false

/-- The cryptographic libraries. `nil` is an absent value, `loadKey` is the private key that a TLS
server loads, and the parent of a certificate that signs itself is `none`. -/
structure Crypto (Bytes Key Pub : Type) where
  nil : Bytes
  pemDecode : Bytes → Option Bytes
  pemEncode : String → Bytes → Bytes
  parseCertificate : Bytes → Except String (Certificate Bytes Pub)
  parseECPrivateKey : Bytes → Except String Key
  parsePKCS8PrivateKey : Bytes → Except String Key
  isECDSA : Key → Bool
  marshalECPrivateKey : Key → Except String Bytes
  loadKey : Bytes → Option Key
  publicKey : Key → Pub
  generateKey : ℕ → Except String Key
  randInt : ℕ → Except String ℕ
  createCertificate : ℕ → CertTemplate → Option (Certificate Bytes Pub) → Pub → Key →
    Except String Bytes
  /-- Whether the signature of a certificate is one of the holder of a key. -/
  verifies : Certificate Bytes Pub → Pub → Bool
  parseIP : String → Option String

structure CAArtifacts (Bytes Key Pub : Type) where
  cert : Certificate Bytes Pub
  key : Key
  certPEM : Bytes
  keyPEM : Bytes

structure ServerArtifacts (Bytes : Type) where
  certPEM : Bytes
  keyPEM : Bytes

def defaultOrganization : String := "Multigres Operator"
def caValidityDuration : ℤ := 10 * 365 * 24 * 3600
def serverValidityDuration : ℤ := 365 * 24 * 3600
def rotationThreshold : ℤ := 30 * 24 * 3600
def maxRecursionDepth : ℕ := 3

variable {Bytes Key Pub : Type}

namespace Crypto

/-- What is assumed of the libraries. A certificate is created only with the key of its parent, has
the names and, up to a second, the end of its template, and is signed with that key. -/
structure Correct (c : Crypto Bytes Key Pub) : Prop where
  decode_encode (type : String) (b : Bytes) : c.pemDecode (c.pemEncode type b) = some b
  parse_marshal {k : Key} {b : Bytes} (h : c.marshalECPrivateKey k = .ok b) :
    c.parseECPrivateKey b = .ok k
  load_marshal {k : Key} {b : Bytes} (h : c.marshalECPrivateKey k = .ok b) (type : String) :
    c.loadKey (c.pemEncode type b) = some k
  created {entropy : ℕ} {tpl : CertTemplate} {parent : Option (Certificate Bytes Pub)} {pub : Pub}
    {key : Key} {der : Bytes} (h : c.createCertificate entropy tpl parent pub key = .ok der) :
    (∀ p ∈ parent, c.publicKey key = p.publicKey) ∧
      ∃ cert, c.parseCertificate der = .ok cert ∧ cert.publicKey = pub ∧
        tpl.notAfter ≤ cert.notAfter + 1 ∧ cert.dnsNames = tpl.dnsNames ∧
        cert.ipAddresses = tpl.ipAddresses ∧ cert.otherNames = [] ∧
        c.verifies cert (c.publicKey key) = true

variable (c : Crypto Bytes Key Pub)

def checkSignatureFrom (cert parent : Certificate Bytes Pub) : Bool :=
  parent.mayIssue && c.verifies cert parent.publicKey

def generateCA (organization : String) (entropy : ℕ) (now : ℤ) :
    Except String (CAArtifacts Bytes Key Pub) := do
  let organization := if organization = "" then defaultOrganization else organization
  let key ← (c.generateKey entropy).mapError ("failed to generate CA private key: " ++ ·)
  let tpl : CertTemplate :=
    { serialNumber := 1
      commonName := organization ++ " CA"
      organization := organization
      notBefore := now - 3600
      notAfter := now + caValidityDuration
      keyUsage := [.certSign, .digitalSignature]
      extKeyUsage := [.serverAuth, .clientAuth]
      isCA := true }
  let der ← (c.createCertificate entropy tpl none (c.publicKey key) key).mapError
    ("failed to create CA certificate: " ++ ·)
  let cert ← (c.parseCertificate der).mapError ("failed to parse generated CA: " ++ ·)
  let keyBytes ← (c.marshalECPrivateKey key).mapError ("failed to marshal CA key: " ++ ·)
  return ⟨cert, key, c.pemEncode "CERTIFICATE" der, c.pemEncode "EC PRIVATE KEY" keyBytes⟩

/-- The key of `ParseCA`: an EC key, or an ECDSA key in PKCS8. -/
def parseCAKey (b : Bytes) : Except String Key :=
  match c.parseECPrivateKey b with
  | .ok key => .ok key
  | .error err => match c.parsePKCS8PrivateKey b with
    | .ok key =>
      if c.isECDSA key then .ok key else .error "found non-ECDSA private key type in CA secret"
    | .error _ => .error ("failed to parse CA private key: " ++ err)

def parseCA (certPEM keyPEM : Bytes) : Except String (CAArtifacts Bytes Key Pub) := do
  let block ← match c.pemDecode certPEM with
    | none => .error "failed to decode CA cert PEM"
    | some block => .ok block
  let cert ← (c.parseCertificate block).mapError ("failed to parse CA cert: " ++ ·)
  let block ← match c.pemDecode keyPEM with
    | none => .error "failed to decode CA key PEM"
    | some block => .ok block
  let key ← c.parseCAKey block
  return ⟨cert, key, certPEM, keyPEM⟩

def generateServerCert (ca : CAArtifacts Bytes Key Pub) (commonName : String)
    (dnsNames : List String) (extKeyUsages : List ExtKeyUsage) (organization : String) (entropy : ℕ)
    (now : ℤ) : Except String (ServerArtifacts Bytes) := do
  let key ← (c.generateKey entropy).mapError ("failed to generate server private key: " ++ ·)
  let serialNumber ← (c.randInt entropy).mapError ("failed to generate serial number: " ++ ·)
  let tpl : CertTemplate :=
    { serialNumber := serialNumber
      commonName := commonName
      organization := organization
      dnsNames := dnsNames
      ipAddresses := (c.parseIP commonName).toList
      notBefore := now - 3600
      notAfter := now + serverValidityDuration
      keyUsage := [.keyEncipherment, .digitalSignature]
      extKeyUsage := extKeyUsages }
  let der ← (c.createCertificate entropy tpl (some ca.cert) (c.publicKey key) ca.key).mapError
    ("failed to sign server certificate: " ++ ·)
  let keyBytes ← (c.marshalECPrivateKey key).mapError ("failed to marshal server key: " ++ ·)
  return ⟨c.pemEncode "CERTIFICATE" der, c.pemEncode "EC PRIVATE KEY" keyBytes⟩

end Crypto

/-! ### The Secrets -/

/-- `Data` of a Secret. -/
abbrev Data (Bytes : Type) := Table String Bytes

inductive SecretRef
  | ca
  | server
  deriving DecidableEq

structure Secrets (Bytes : Type) where
  ca : Option (Data Bytes)
  server : Option (Data Bytes)

def Secrets.get (s : Secrets Bytes) : SecretRef → Option (Data Bytes)
  | .ca => s.ca
  | .server => s.server

def Secrets.set (s : Secrets Bytes) (data : Option (Data Bytes)) : SecretRef → Secrets Bytes
  | .ca => { s with ca := data }
  | .server => { s with server := data }

inductive ApiError
  | notFound
  | alreadyExists
  | other (text : String)
  deriving DecidableEq

def ApiError.text : ApiError → String
  | notFound => "not found"
  | alreadyExists => "already exists"
  | other text => text

inductive Op (Bytes : Type)
  | create (r : SecretRef) (data : Data Bytes)
  | update (r : SecretRef) (data : Data Bytes)
  | delete (r : SecretRef)

/-- The environment of a pass: a fault of a request, whether the cache shows the Secrets, the clock,
randomness, and the errors of the owner reference, the hook and the projection. -/
structure Answer where
  fault : Option ApiError := none
  hidden : Bool := false
  now : ℤ
  entropy : ℕ := 0
  owner : Option String := none
  hook : Option String := none
  projection : Option String := none

/-- The API server. There are no other writers. -/
def cluster (Bytes : Type) : Machine Answer (Secrets Bytes) (Op Bytes) ApiError where
  fault := Answer.fault
  view i s := if i.hidden then ⟨none, none⟩ else s
  exec s
    | .create r data => match s.get r with
      | some _ => .error .alreadyExists
      | none => .ok (s.set (some data) r)
    | .update r data => match s.get r with
      | none => .error .notFound
      | some _ => .ok (s.set (some data) r)
    | .delete r => match s.get r with
      | none => .error .notFound
      | some _ => .ok (s.set none r)

/-- `Options`. `postReconcileHook` says whether there is a hook. -/
structure Options where
  «namespace» : String
  caSecretName : String
  serverSecretName : String
  serviceName : String
  organization : String := ""
  additionalDNSNames : List String := []
  extKeyUsages : List ExtKeyUsage := []
  postReconcileHook : Bool := false
  waitForProjection : Bool := false

namespace Options

variable (opts : Options)

/-- `organization` -/
def organizationName : String :=
  if opts.organization ≠ "" then opts.organization else defaultOrganization

/-- `extKeyUsages` -/
def keyUsages : List ExtKeyUsage :=
  if opts.extKeyUsages ≠ [] then opts.extKeyUsages else [.serverAuth]

def dnsNames : List String :=
  [opts.serviceName ++ "." ++ opts.namespace ++ ".svc",
    opts.serviceName ++ "." ++ opts.namespace ++ ".svc.cluster.local"] ++ opts.additionalDNSNames

end Options

def dnsNameSetsEqual (a b : List String) : Bool :=
  a.toFinset.card = b.toFinset.card && a.all fun n => b.contains n

/-! ### The pass -/

section

variable (c : Crypto Bytes Key Pub) (opts : Options)

abbrev Pass (Bytes α : Type) := Prog Answer (Secrets Bytes) (Op Bytes) ApiError α

/-- A failure with the text of its cause. -/
def failWith {α : Type} (context : String) (err : String) : Pass Bytes α :=
  .fail (.other (context ++ err))

/-- A value of a Secret. -/
def Data.field (data : Data Bytes) (key : String) : Bytes := (data.get key).getD c.nil

def caData (artifacts : CAArtifacts Bytes Key Pub) : Data Bytes :=
  Table.ofList [("ca.crt", artifacts.certPEM), ("ca.key", artifacts.keyPEM)]

def serverData (artifacts : ServerArtifacts Bytes) : Data Bytes :=
  Table.ofList [("tls.crt", artifacts.certPEM), ("tls.key", artifacts.keyPEM)]

/-- The error of the last attempt. -/
def tooManyAttempts (secret name : String) : String :=
  "failed to ensure " ++ secret ++ " secret \"" ++ name ++ "\" after 3 attempts: " ++
    "secret exists on API server but is not visible in the informer cache " ++
    "(check that the secret has the required cache labels)"

/-- A Secret is created. One that the cache does not show is tried again. -/
def createSecret {α : Type} (r : SecretRef) (secret : String) (data : Data Bytes) (a : α)
    (owner : Option String) (retry : Pass Bytes α) : Pass Bytes α :=
  match owner with
  | some err => failWith ("failed to set owner for " ++ secret ++ " secret: ") err
  | none => .call (.create r data) fun
    | .ok () => .ret a
    | .error .alreadyExists => retry
    | .error err => failWith ("failed to create " ++ secret ++ " secret: ") err.text

def createCA (retry : Pass Bytes (CAArtifacts Bytes Key Pub)) :
    Pass Bytes (CAArtifacts Bytes Key Pub) :=
  .ask fun i => match c.generateCA opts.organizationName i.entropy i.now with
    | .error err => failWith "failed to generate CA: " err
    | .ok artifacts => createSecret .ca "CA" (caData artifacts) artifacts i.owner retry

/-- A Secret is deleted and made anew. -/
def deleteSecret {α : Type} (r : SecretRef) (context : String) (retry : Pass Bytes α) :
    Pass Bytes α :=
  .call (.delete r) fun
    | .error err => failWith context err.text
    | .ok () => retry

/-- `ensureCA`; the argument is the number of attempts that are left. -/
def ensureCA : ℕ → Pass Bytes (CAArtifacts Bytes Key Pub)
  | 0 => failWith (tooManyAttempts "CA" opts.caSecretName) ""
  | n + 1 => .read .cached fun
    | .error .notFound => createCA c opts (ensureCA n)
    | .error err => failWith "failed to get CA secret: " err.text
    | .ok s => match s.ca with
      | none => createCA c opts (ensureCA n)
      | some data => match c.parseCA (data.field c "ca.crt") (data.field c "ca.key") with
        | .error _ => deleteSecret .ca "failed to delete corrupt CA secret: " (ensureCA n)
        | .ok artifacts => .ask fun i =>
          if artifacts.cert.notAfter - i.now < rotationThreshold then
            deleteSecret .ca "failed to delete expiring CA secret: " (ensureCA n)
          else .ret artifacts

variable (ca : CAArtifacts Bytes Key Pub)

def newServerCert (i : Answer) : Except String (ServerArtifacts Bytes) :=
  c.generateServerCert ca opts.serviceName opts.dnsNames opts.keyUsages opts.organizationName
    i.entropy i.now

def createServerCert (retry : Pass Bytes Bytes) : Pass Bytes Bytes :=
  .ask fun i => match newServerCert c opts ca i with
    | .error err => failWith "failed to generate server cert: " err
    | .ok srv => createSecret .server "server cert" (serverData srv) srv.certPEM i.owner retry

def rotateServerCert : Pass Bytes Bytes :=
  .ask fun i => match newServerCert c opts ca i with
    | .error err => failWith "failed to generate new server cert: " err
    | .ok srv => .call (.update .server (serverData srv)) fun
      | .error err => failWith "failed to update server cert secret: " err.text
      | .ok () => .ret srv.certPEM

/-- Whether a certificate is about to expire, from another CA or for other names. -/
def needsRotation (cert : Certificate Bytes Pub) (now : ℤ) : Bool :=
  decide (cert.notAfter - now < rotationThreshold) || !c.checkSignatureFrom cert ca.cert ||
    !dnsNameSetsEqual cert.dnsNames opts.dnsNames

/-- `ensureServerCert`; the argument is the number of attempts that are left. -/
def ensureServerCert : ℕ → Pass Bytes Bytes
  | 0 => failWith (tooManyAttempts "server cert" opts.serverSecretName) ""
  | n + 1 => .read .cached fun
    | .error .notFound => createServerCert c opts ca (ensureServerCert n)
    | .error err => failWith "failed to get server cert secret: " err.text
    | .ok s => match s.server with
      | none => createServerCert c opts ca (ensureServerCert n)
      | some data => match c.pemDecode (data.field c "tls.crt") with
        | none => deleteSecret .server "failed to delete corrupt server cert secret: "
            (ensureServerCert n)
        | some block => match c.parseCertificate block with
          | .error _ => deleteSecret .server "failed to delete unparseable server cert secret: "
              (ensureServerCert n)
          | .ok cert => .ask fun i =>
            if needsRotation c opts ca cert i.now then rotateServerCert c opts ca
            else .ret (data.field c "tls.crt")

/-- The hook, and the wait until the certificate is on disk. -/
def finish : Pass Bytes Unit :=
  .ask fun i => match if opts.postReconcileHook then i.hook else none with
    | some err => failWith "post-reconcile hook failed: " err
    | none => match if opts.waitForProjection then i.projection else none with
      | some err => .fail (.other err)
      | none => .ret ()

def reconcilePKI : Pass Bytes Unit := do
  let ca ← ensureCA c opts maxRecursionDepth
  let _ ← ensureServerCert c opts ca maxRecursionDepth
  finish opts

end

/-! ### What the generator makes -/

section

variable {c : Crypto Bytes Key Pub}

def Crypto.certificate (c : Crypto Bytes Key Pub) (pem : Bytes) : Option (Certificate Bytes Pub) :=
  (c.pemDecode pem).bind fun block => (c.parseCertificate block).toOption

/-- **A generated CA** is parsed as it was generated, and its key is that of its certificate. -/
theorem Crypto.generateCA_spec (hc : c.Correct) {organization : String} {entropy : ℕ} {now : ℤ}
    {a : CAArtifacts Bytes Key Pub} (h : c.generateCA organization entropy now = .ok a) :
    c.parseCA a.certPEM a.keyPEM = .ok a ∧ c.publicKey a.key = a.cert.publicKey := by
  unfold Crypto.generateCA at h
  obtain ⟨key, -, h⟩ := Checks.bind_eq_ok.mp h
  obtain ⟨der, hder, h⟩ := Checks.bind_eq_ok.mp h
  obtain ⟨cert, hcert, h⟩ := Checks.bind_eq_ok.mp h
  obtain ⟨keyBytes, hkey, h⟩ := Checks.bind_eq_ok.mp h
  obtain rfl := Except.ok.inj h
  rw [Checks.mapError_eq_ok] at hder hcert hkey
  obtain ⟨-, cert', hcert', hpublic, -⟩ := hc.created hder
  obtain rfl := Except.ok.inj (hcert.symm.trans hcert')
  refine ⟨?_, hpublic.symm⟩
  have hparse : c.parseCAKey keyBytes = .ok key := by
    unfold Crypto.parseCAKey
    rw [hc.parse_marshal hkey]
  unfold Crypto.parseCA
  dsimp only
  rw [hc.decode_encode, hc.decode_encode]
  change ((c.parseCertificate der).mapError _ >>= _) = _
  rw [hcert]
  change (c.parseCAKey keyBytes >>= _) = _
  rw [hparse]
  rfl

/-- **A generated server certificate** has the wanted names, belongs to the key beside it and is
signed by the CA, whose key has to be that of its certificate. -/
theorem Crypto.generateServerCert_spec (hc : c.Correct) {ca : CAArtifacts Bytes Key Pub}
    {commonName organization : String} {dnsNames : List String} {usages : List ExtKeyUsage}
    {entropy : ℕ} {now : ℤ} {srv : ServerArtifacts Bytes}
    (h : c.generateServerCert ca commonName dnsNames usages organization entropy now = .ok srv) :
    c.publicKey ca.key = ca.cert.publicKey ∧
      ∃ cert key, c.certificate srv.certPEM = some cert ∧ c.loadKey srv.keyPEM = some key ∧
        c.publicKey key = cert.publicKey ∧ c.verifies cert ca.cert.publicKey = true ∧
        cert.dnsNames = dnsNames ∧ cert.ipAddresses = (c.parseIP commonName).toList ∧
        cert.otherNames = [] ∧ now + serverValidityDuration ≤ cert.notAfter + 1 := by
  unfold Crypto.generateServerCert at h
  obtain ⟨key, -, h⟩ := Checks.bind_eq_ok.mp h
  obtain ⟨serialNumber, -, h⟩ := Checks.bind_eq_ok.mp h
  obtain ⟨der, hder, h⟩ := Checks.bind_eq_ok.mp h
  obtain ⟨keyBytes, hkey, h⟩ := Checks.bind_eq_ok.mp h
  obtain rfl := Except.ok.inj h
  rw [Checks.mapError_eq_ok] at hder hkey
  obtain ⟨hparent, cert, hcert, hpublic, hend, hdns, hip, hother, hsigned⟩ := hc.created hder
  have hca : c.publicKey ca.key = ca.cert.publicKey := hparent ca.cert rfl
  refine ⟨hca, cert, key, ?_, hc.load_marshal hkey _, hpublic.symm, hca ▸ hsigned, hdns, hip, hother,
    hend⟩
  unfold Crypto.certificate
  rw [hc.decode_encode]
  change (c.parseCertificate der).toOption = some cert
  rw [hcert]
  rfl

theorem dnsNameSetsEqual_iff {a b : List String} :
    dnsNameSetsEqual a b = true ↔ ∀ n, n ∈ a ↔ n ∈ b := by
  have hsets : (∀ n, n ∈ a ↔ n ∈ b) ↔ a.toFinset = b.toFinset := by
    simp only [Finset.ext_iff, List.mem_toFinset]
  have hall : (a.all fun n => b.contains n) = true ↔ a.toFinset ⊆ b.toFinset := by
    simp only [List.all_eq_true, List.contains_iff_mem, Finset.subset_iff, List.mem_toFinset]
  unfold dnsNameSetsEqual
  rw [Bool.and_eq_true_iff, decide_eq_true_iff, hall, hsets]
  constructor
  · rintro ⟨hcard, hsubset⟩
    exact Finset.eq_of_subset_of_card_le hsubset hcard.ge
  · intro heq
    rw [heq]
    exact ⟨rfl, Finset.Subset.refl _⟩

end

end MultigresOperator.Cert
