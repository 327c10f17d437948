import MultigresOperator.Cert.Rotator

/-!
# Self-healing of certificates

A pass that succeeds leaves a CA and a server certificate. What it makes itself is as it should be;
what it keeps is as good as the checks on it, and these do not cover the keys or all names.

## Main results

* `wp_ensureCA`, `wp_ensureServerCert`: what a pass leaves
* `reconcilePKI_heals_iff`: every pass that succeeds leaves healthy Secrets iff they were sound
* `reconcilePKI_keeps_keyless`: a server Secret without a key is kept
-/

namespace MultigresOperator.Cert

open Effects

variable {Bytes Key Pub : Type}

section

variable (c : Crypto Bytes Key Pub) (opts : Options) (start : ℤ) (s : Secrets Bytes)

/-! ### The Secrets a pass is for -/

def IsCA (data : Option (Data Bytes)) (a : CAArtifacts Bytes Key Pub) : Prop :=
  ∃ d, data = some d ∧ c.parseCA (d.field c "ca.crt") (d.field c "ca.key") = .ok a

def IsServerCert (data : Option (Data Bytes)) (cert : Certificate Bytes Pub) : Prop :=
  ∃ d, data = some d ∧ c.certificate (d.field c "tls.crt") = some cert

/-- The key of a server Secret belongs to its certificate. -/
def IsServerKey (data : Option (Data Bytes)) (cert : Certificate Bytes Pub) : Prop :=
  ∃ d key, data = some d ∧ c.loadKey (d.field c "tls.key") = some key ∧
    c.publicKey key = cert.publicKey

/-- The certificate has the wanted addresses, and no names of other kinds. -/
def OtherNamesWanted (cert : Certificate Bytes Pub) : Prop :=
  cert.ipAddresses = (c.parseIP opts.serviceName).toList ∧ cert.otherNames = []

/-- **Healthy Secrets**: a CA whose key is that of its certificate, and a server certificate with its
key, signed by that CA, for exactly the wanted names, that is not about to expire. -/
def Healthy : Prop :=
  ∃ a cert, IsCA c s.ca a ∧ c.publicKey a.key = a.cert.publicKey ∧
    IsServerCert c s.server cert ∧ IsServerKey c s.server cert ∧
    c.verifies cert a.cert.publicKey = true ∧
    (∀ n, n ∈ cert.dnsNames ↔ n ∈ opts.dnsNames) ∧ OtherNamesWanted c opts cert ∧
    rotationThreshold ≤ cert.notAfter - start

def KeepsCA (a : CAArtifacts Bytes Key Pub) : Prop :=
  IsCA c s.ca a ∧ rotationThreshold ≤ a.cert.notAfter - start

def KeepsServerCert (a : CAArtifacts Bytes Key Pub) (cert : Certificate Bytes Pub) : Prop :=
  IsServerCert c s.server cert ∧ needsRotation c opts a cert start = false

/-- **Sound Secrets**: if the pass would keep both, then the keys belong to the certificates and the
names that are not compared are the wanted ones. -/
def Sound : Prop :=
  ∀ a cert, KeepsCA c start s a → KeepsServerCert c opts start s a cert →
    c.publicKey a.key = a.cert.publicKey ∧ IsServerKey c s.server cert ∧
      OtherNamesWanted c opts cert

/-- A CA that a pass has generated and left in the place of the one it found has not signed the
certificate that was there. -/
def FreshCA (left : Secrets Bytes) : Prop :=
  ∀ entropy now a cert, IsCA c left.ca a → ¬ KeepsCA c start s a →
    c.generateCA opts.organizationName entropy now = .ok a →
      IsServerCert c s.server cert → c.checkSignatureFrom cert a.cert = false

/-- Every pass that starts now, draws a fresh CA if any, and succeeds leaves healthy Secrets. -/
def Heals : Prop :=
  ∀ orc : ℕ → Answer, (∀ n, start ≤ (orc n).now) →
    ((reconcilePKI c opts).run (cluster Bytes) orc s).result = .ok () →
      FreshCA c opts start s ((reconcilePKI c opts).run (cluster Bytes) orc s).state →
        Healthy c opts start ((reconcilePKI c opts).run (cluster Bytes) orc s).state

end

section

variable {c : Crypto Bytes Key Pub} {opts : Options} {start : ℤ} {s t : Secrets Bytes}
  {a : CAArtifacts Bytes Key Pub} {cert : Certificate Bytes Pub} {r : SecretRef} {data : Data Bytes}

theorem IsCA.eq {data : Option (Data Bytes)} {a' : CAArtifacts Bytes Key Pub} (h : IsCA c data a)
    (h' : IsCA c data a') : a = a' := by
  obtain ⟨d, hd, ha⟩ := h
  obtain ⟨d', hd', ha'⟩ := h'
  obtain rfl := Option.some.inj (hd.symm.trans hd')
  exact Except.ok.inj (ha.symm.trans ha')

theorem IsServerCert.eq {data : Option (Data Bytes)} {cert' : Certificate Bytes Pub}
    (h : IsServerCert c data cert) (h' : IsServerCert c data cert') : cert = cert' := by
  obtain ⟨d, hd, hcert⟩ := h
  obtain ⟨d', hd', hcert'⟩ := h'
  obtain rfl := Option.some.inj (hd.symm.trans hd')
  exact Option.some.inj (hcert.symm.trans hcert')

theorem isCA_caData (h : c.parseCA a.certPEM a.keyPEM = .ok a) : IsCA c (some (caData a)) a := by
  have hcrt : (caData a).field c "ca.crt" = a.certPEM := by
    simp [caData, Data.field, Table.get_ofList, List.lookup_cons]
  have hkey : (caData a).field c "ca.key" = a.keyPEM := by
    simp [caData, Data.field, Table.get_ofList]
  exact ⟨_, rfl, by rw [hcrt, hkey]; exact h⟩

theorem field_serverData (srv : ServerArtifacts Bytes) :
    (serverData srv).field c "tls.crt" = srv.certPEM ∧
      (serverData srv).field c "tls.key" = srv.keyPEM := by
  constructor
  · simp [serverData, Data.field, Table.get_ofList, List.lookup_cons]
  · simp [serverData, Data.field, Table.get_ofList]

theorem needsRotation_mono {now : ℤ} (hnow : start ≤ now)
    (h : needsRotation c opts a cert now = false) : needsRotation c opts a cert start = false := by
  unfold needsRotation at h ⊢
  rw [Bool.or_eq_false_iff, Bool.or_eq_false_iff, decide_eq_false_iff_not] at h ⊢
  exact ⟨⟨by omega, h.1.2⟩, h.2⟩

/-! ### What a pass leaves -/

/-- The precondition of a program of a pass that starts now. -/
abbrev safe {α : Type} (start : ℤ) (p : Pass Bytes α) (Q : α → Secrets Bytes → Prop) :
    Secrets Bytes → Prop :=
  p.wpAlone (cluster Bytes) (fun _ i => start ≤ i.now) (fun _ _ => True) Q fun _ _ => True

variable {α : Type} {Q : α → Secrets Bytes → Prop}

theorem safe_failWith {context err : String} : safe start (failWith context err) Q s :=
  fun _ _ => trivial

theorem exec_create (h : (cluster Bytes).exec s (.create r data) = .ok t) :
    t = s.set (some data) r := by
  simp only [cluster] at h
  split at h
  · cases h
  · exact (Except.ok.inj h).symm

theorem exec_update (h : (cluster Bytes).exec s (.update r data) = .ok t) :
    t = s.set (some data) r := by
  simp only [cluster] at h
  split at h
  · cases h
  · exact (Except.ok.inj h).symm

theorem exec_delete (h : (cluster Bytes).exec s (.delete r) = .ok t) : t = s.set none r := by
  simp only [cluster] at h
  split at h
  · cases h
  · exact (Except.ok.inj h).symm

theorem safe_createSecret {secret : String} {a : α} {owner : Option String} {retry : Pass Bytes α}
    (hdone : Q a (s.set (some data) r)) (hretry : safe start retry Q s) :
    safe start (createSecret r secret data a owner retry) Q s := by
  unfold createSecret
  cases owner with
  | some err => exact safe_failWith
  | none =>
    rintro _ rfl
    refine ⟨fun i err _ => ?_, fun t ht => ⟨trivial, ?_⟩⟩
    · cases err with
      | notFound => exact safe_failWith
      | alreadyExists => exact hretry
      | other text => exact safe_failWith
    · rintro _ rfl
      rw [exec_create ht]
      exact hdone

theorem safe_deleteSecret {context : String} {retry : Pass Bytes α}
    (h : safe start retry Q (s.set none r)) : safe start (deleteSecret r context retry) Q s := by
  rintro _ rfl
  refine ⟨fun i err _ => safe_failWith, fun t ht => ⟨trivial, ?_⟩⟩
  rw [exec_delete ht]
  exact h

theorem safe_read {k : Except ApiError (Secrets Bytes) → Pass Bytes α}
    (hfault : ∀ err, safe start (k (.error err)) Q s)
    (hhidden : safe start (k (.ok ⟨none, none⟩)) Q s) (hshown : safe start (k (.ok s)) Q s) :
    safe start (.read .cached k) Q s := by
  rintro _ rfl
  refine ⟨fun i err _ => hfault err, fun i _ => ?_⟩
  cases hi : i.hidden with
  | true =>
    have hview : (cluster Bytes).shown .cached i s = ⟨none, none⟩ := by
      simp [Machine.shown, cluster, hi]
    rw [hview]
    exact hhidden
  | false =>
    have hview : (cluster Bytes).shown .cached i s = s := by simp [Machine.shown, cluster, hi]
    rw [hview]
    exact hshown

/-- What is left of the CA Secret during the attempts: all or nothing. The server Secret is not
touched. -/
def CAUntouched (s t : Secrets Bytes) : Prop := t.server = s.server ∧ (t.ca = s.ca ∨ t.ca = none)

/-- The CA after the attempts: the one that was there and is not about to expire, or a new one. -/
def CAEnsured (c : Crypto Bytes Key Pub) (opts : Options) (start : ℤ) (s : Secrets Bytes)
    (a : CAArtifacts Bytes Key Pub) (t : Secrets Bytes) : Prop :=
  t.server = s.server ∧ IsCA c t.ca a ∧
    (KeepsCA c start s a ∨
      c.publicKey a.key = a.cert.publicKey ∧
        ∃ entropy now, c.generateCA opts.organizationName entropy now = .ok a)

theorem safe_createCA (hc : c.Correct) {retry : Pass Bytes (CAArtifacts Bytes Key Pub)}
    (ht : CAUntouched s t) (hretry : safe start retry (CAEnsured c opts start s) t) :
    safe start (createCA c opts retry) (CAEnsured c opts start s) t := by
  rintro _ rfl i _
  dsimp only
  split
  · exact safe_failWith
  · next a ha =>
    obtain ⟨hparse, hkey⟩ := c.generateCA_spec hc ha
    refine safe_createSecret ⟨ht.1, isCA_caData hparse, .inr ⟨hkey, _, _, ha⟩⟩ hretry

/-- **The attempts at a CA.** -/
theorem wp_ensureCA (hc : c.Correct) (n : ℕ) (ht : CAUntouched s t) :
    safe start (ensureCA c opts n) (CAEnsured c opts start s) t := by
  induction n generalizing t with
  | zero => exact safe_failWith
  | succ n ih =>
    have hdeleted : safe start (ensureCA c opts n) (CAEnsured c opts start s) (t.set none .ca) :=
      ih ⟨ht.1, .inr rfl⟩
    refine safe_read (fun err => ?_) (safe_createCA hc ht (ih ht)) ?_
    · cases err with
      | notFound => exact safe_createCA hc ht (ih ht)
      | alreadyExists => exact safe_failWith
      | other text => exact safe_failWith
    · dsimp only
      split
      · exact safe_createCA hc ht (ih ht)
      · next data hdata =>
        split
        · exact safe_deleteSecret hdeleted
        · next a ha =>
          rintro _ rfl i hi
          dsimp only
          split
          · exact safe_deleteSecret hdeleted
          · next hexpiry =>
            -- the Secret was not deleted in an earlier attempt, so it is the first one
            rintro _ rfl
            have hca : IsCA c t.ca a := ⟨data, hdata, ha⟩
            rcases ht.2 with hsame | hnone
            · exact ⟨ht.1, hca, .inl ⟨hsame ▸ hca, by omega⟩⟩
            · rw [hnone] at hdata
              cases hdata

/-- What is left of the server Secret during the attempts. -/
def ServerUntouched (s t : Secrets Bytes) : Prop :=
  t.ca = s.ca ∧ (t.server = s.server ∨ t.server = none)

/-- The server Secret after the attempts: the one that was there and need not be rotated, or a new
one. -/
def ServerEnsured (c : Crypto Bytes Key Pub) (opts : Options) (start : ℤ)
    (a : CAArtifacts Bytes Key Pub) (s t : Secrets Bytes) : Prop :=
  t.ca = s.ca ∧
    ((t.server = s.server ∧ ∃ cert, KeepsServerCert c opts start s a cert) ∨
      ∃ i srv, start ≤ i.now ∧ newServerCert c opts a i = .ok srv ∧
        t.server = some (serverData srv))

variable {a : CAArtifacts Bytes Key Pub}

theorem safe_createServerCert {retry : Pass Bytes Bytes} (ht : ServerUntouched s t)
    (hretry : safe start retry (fun _ => ServerEnsured c opts start a s) t) :
    safe start (createServerCert c opts a retry) (fun _ => ServerEnsured c opts start a s) t := by
  rintro _ rfl i hi
  dsimp only
  split
  · exact safe_failWith
  · next srv hsrv => exact safe_createSecret ⟨ht.1, .inr ⟨i, srv, hi, hsrv, rfl⟩⟩ hretry

theorem safe_rotateServerCert (ht : ServerUntouched s t) :
    safe start (rotateServerCert c opts a) (fun _ => ServerEnsured c opts start a s) t := by
  rintro _ rfl i hi
  dsimp only
  split
  · exact safe_failWith
  · next srv hsrv =>
    rintro _ rfl
    refine ⟨fun i err _ => safe_failWith, fun t' ht' => ⟨trivial, ?_⟩⟩
    rintro _ rfl
    rw [exec_update ht']
    exact ⟨ht.1, .inr ⟨i, srv, hi, hsrv, rfl⟩⟩

/-- **The attempts at a server certificate.** -/
theorem wp_ensureServerCert (n : ℕ) (ht : ServerUntouched s t) :
    safe start (ensureServerCert c opts a n) (fun _ => ServerEnsured c opts start a s) t := by
  induction n generalizing t with
  | zero => exact safe_failWith
  | succ n ih =>
    have hdeleted : safe start (ensureServerCert c opts a n) (fun _ => ServerEnsured c opts start a s)
        (t.set none .server) := ih ⟨ht.1, .inr rfl⟩
    refine safe_read (fun err => ?_) (safe_createServerCert ht (ih ht)) ?_
    · cases err with
      | notFound => exact safe_createServerCert ht (ih ht)
      | alreadyExists => exact safe_failWith
      | other text => exact safe_failWith
    · dsimp only
      split
      · exact safe_createServerCert ht (ih ht)
      · next data hdata =>
        split
        · exact safe_deleteSecret hdeleted
        · next block hblock =>
          split
          · exact safe_deleteSecret hdeleted
          · next cert hcert =>
            rintro _ rfl i hi
            dsimp only
            split
            · exact safe_rotateServerCert ht
            · next hkept =>
              rintro _ rfl
              have hserver : IsServerCert c t.server cert := by
                refine ⟨data, hdata, ?_⟩
                unfold Crypto.certificate
                rw [hblock]
                change (c.parseCertificate block).toOption = some cert
                rw [hcert]
                rfl
              rcases ht.2 with hsame | hnone
              · refine ⟨ht.1, .inl ⟨hsame, cert, hsame ▸ hserver, ?_⟩⟩
                exact needsRotation_mono hi (Bool.eq_false_of_not_eq_true hkept)
              · rw [hnone] at hdata
                cases hdata

theorem safe_finish {Q : Unit → Secrets Bytes → Prop} (h : Q () s) : safe start (finish opts) Q s := by
  rintro _ rfl i _
  dsimp only
  split
  · exact safe_failWith
  · split
    · exact fun _ _ => trivial
    · rintro _ rfl
      exact h

/-- A CA and a server certificate as the attempts leave them, from sound Secrets, are healthy. -/
theorem healthy_of_ensured {u : Secrets Bytes} (hc : c.Correct) (hfresh : FreshCA c opts start s u)
    (hsound : Sound c opts start s) (hca : CAEnsured c opts start s a t)
    (hserver : ServerEnsured c opts start a t u) : Healthy c opts start u := by
  obtain ⟨hunchanged, hisCA, hsource⟩ := hca
  obtain ⟨hsame, ⟨hkept, cert, hcert, hrotation⟩ | ⟨i, srv, hi, hsrv, hnew⟩⟩ := hserver
  · -- the server certificate was kept, so the CA was kept as well
    rw [hunchanged] at hcert hkept
    have hrotation' := hrotation
    unfold needsRotation at hrotation'
    rw [Bool.or_eq_false_iff, Bool.or_eq_false_iff, decide_eq_false_iff_not, Bool.not_eq_false',
      Bool.not_eq_false', dnsNameSetsEqual_iff] at hrotation'
    obtain ⟨⟨hend, hsigned⟩, hnames⟩ := hrotation'
    have hkeeps : KeepsCA c start s a := by
      rcases hsource with hkeeps | ⟨-, entropy, now, hgenerated⟩
      · exact hkeeps
      · by_contra hkeeps
        rw [hfresh entropy now a cert (hsame ▸ hisCA) hkeeps hgenerated hcert] at hsigned
        cases hsigned
    obtain ⟨hkey, hserverKey, hother⟩ := hsound a cert hkeeps ⟨hcert, hrotation⟩
    refine ⟨a, cert, hsame ▸ hisCA, hkey, hkept ▸ hcert, hkept ▸ hserverKey, ?_, hnames, hother,
      by omega⟩
    exact (Bool.and_eq_true_iff.mp hsigned).2
  · obtain ⟨hkey, cert, key, hcert, hload, hpublic, hsigned, hdns, hip, hother, hend⟩ :=
      c.generateServerCert_spec hc hsrv
    refine ⟨a, cert, hsame ▸ hisCA, hkey, ?_, ?_, hsigned, fun n => by rw [hdns], ⟨hip, hother⟩, ?_⟩
    · exact ⟨_, hnew, by rw [(field_serverData srv).1]; exact hcert⟩
    · exact ⟨_, key, hnew, by rw [(field_serverData srv).2]; exact hload, hpublic⟩
    · unfold serverValidityDuration at hend
      unfold rotationThreshold
      omega

/-- **A pass** from sound Secrets leaves healthy ones if it succeeds. -/
theorem wp_reconcilePKI (hc : c.Correct) (hsound : Sound c opts start s) :
    safe start (reconcilePKI c opts)
      (fun _ t => FreshCA c opts start s t → Healthy c opts start t) s := by
  refine Prog.wpAlone_bind (Prog.wpAlone_conseq (wp_ensureCA hc _ ⟨rfl, .inl rfl⟩) ?_ fun _ _ h => h)
  intro a t hca
  refine Prog.wpAlone_bind (Prog.wpAlone_conseq (wp_ensureServerCert _ ⟨rfl, .inl rfl⟩) ?_
    fun _ _ h => h)
  intro _ u hserver
  exact safe_finish fun hfresh => healthy_of_ensured hc hfresh hsound hca hserver

/-! ### A pass that keeps the Secrets -/

def undisturbed (start : ℤ) : Answer where
  now := start

theorem run_ensureCA_keeps {n : ℕ} (h : KeepsCA c start s a) :
    (ensureCA c opts (n + 1)).run (cluster Bytes) (fun _ => undisturbed start) s =
      ⟨[], s, fun _ => undisturbed start, .ok a⟩ := by
  obtain ⟨⟨data, hdata, hparse⟩, hexpiry⟩ := h
  have hlook : (cluster Bytes).look .cached (undisturbed start) s = .ok s := rfl
  unfold ensureCA
  rw [Prog.run, hlook]
  dsimp only
  rw [hdata]
  dsimp only
  rw [hparse]
  dsimp only
  rw [Prog.run]
  change (if a.cert.notAfter - start < rotationThreshold then _ else _ : Pass Bytes _).run _ _ _ = _
  rw [if_neg (not_lt.mpr hexpiry)]
  rfl

theorem run_ensureServerCert_keeps {n : ℕ} (h : KeepsServerCert c opts start s a cert) :
    ∃ pem, (ensureServerCert c opts a (n + 1)).run (cluster Bytes) (fun _ => undisturbed start) s =
      ⟨[], s, fun _ => undisturbed start, .ok pem⟩ := by
  obtain ⟨⟨data, hdata, hcert⟩, hrotation⟩ := h
  obtain ⟨block, hblock, hparse⟩ := Option.bind_eq_some_iff.mp hcert
  have hlook : (cluster Bytes).look .cached (undisturbed start) s = .ok s := rfl
  refine ⟨data.field c "tls.crt", ?_⟩
  unfold ensureServerCert
  rw [Prog.run, hlook]
  dsimp only
  rw [hdata]
  dsimp only
  rw [hblock]
  dsimp only
  cases hresult : c.parseCertificate block with
  | error err =>
    rw [hresult] at hparse
    cases hparse
  | ok cert' =>
    rw [hresult] at hparse
    obtain rfl : cert' = cert := Option.some.inj hparse
    dsimp only
    rw [Prog.run]
    change (if needsRotation c opts a cert' start = true then _ else _ : Pass Bytes _).run _ _ _ = _
    rw [if_neg (by rw [hrotation]; exact Bool.false_ne_true)]
    rfl

theorem run_reconcilePKI_keeps (hca : KeepsCA c start s a)
    (hserver : KeepsServerCert c opts start s a cert) :
    ((reconcilePKI c opts).run (cluster Bytes) (fun _ => undisturbed start) s).result = .ok () ∧
      ((reconcilePKI c opts).run (cluster Bytes) (fun _ => undisturbed start) s).state = s := by
  obtain ⟨pem, hpem⟩ := run_ensureServerCert_keeps (n := 2) hserver
  have hfinish : (finish opts : Pass Bytes Unit).run (cluster Bytes) (fun _ => undisturbed start) s =
      ⟨[], s, fun _ => undisturbed start, .ok ()⟩ := by
    unfold finish
    rw [Prog.run]
    have hhook : (if opts.postReconcileHook then (undisturbed start).hook else none) = none :=
      ite_self _
    have hprojection : (if opts.waitForProjection then (undisturbed start).projection else none) =
        none := ite_self _
    rw [hhook]
    dsimp only
    rw [hprojection]
    rfl
  unfold reconcilePKI maxRecursionDepth
  rw [Prog.run_bind, run_ensureCA_keeps hca]
  dsimp only [Outcome.andThen]
  rw [Prog.run_bind, hpem]
  dsimp only [Outcome.andThen]
  rw [hfinish]
  exact ⟨rfl, rfl⟩

/-- **When a pass heals.** The libraries are correct, and a CA that a pass generates has signed nothing
yet. Whatever the Secrets hold, every pass that succeeds leaves healthy ones iff they are sound. -/
theorem reconcilePKI_heals_iff (hc : c.Correct) :
    Heals c opts start s ↔ Sound c opts start s := by
  constructor
  · intro h a cert hca hserver
    obtain ⟨hresult, hstate⟩ := run_reconcilePKI_keeps hca hserver
    have hhealthy := h (fun _ => undisturbed start) (fun _ => le_rfl) hresult
    rw [hstate] at hhealthy
    have hfresh : FreshCA c opts start s s := fun _ _ a' _ hisCA hnot =>
      absurd (hisCA.eq hca.1 ▸ hca) hnot
    replace hhealthy := hhealthy hfresh
    obtain ⟨a', cert', hisCA, hkey, hcert, hserverKey, -, -, hother, -⟩ := hhealthy
    obtain rfl := hisCA.eq hca.1
    obtain rfl := hcert.eq hserver.1
    exact ⟨hkey, hserverKey, hother⟩
  · intro hsound orc horc hresult
    have hrun := Prog.run_of_wp (wp_reconcilePKI hc hsound)
      (Prog.admits_of_forall fun n _ => horc n)
    exact hrun.2.ok hresult

end

/-! ### Secrets that are not sound -/

namespace Sample

/-- A certificate by its content; keys are numbers. -/
structure Signed where
  tpl : CertTemplate
  subject : ℕ
  signer : ℕ

inductive Text
  | none
  | pem (content : Text)
  | key (k : ℕ)
  | cert (c : Signed)

/-- Libraries whose signatures name their signer. New keys are greater than a hundred. -/
def ledger : Crypto Text ℕ ℕ where
  nil := .none
  pemDecode
    | .pem content => some content
    | _ => none
  pemEncode _ content := .pem content
  parseCertificate
    | .cert c => .ok
      { raw := .cert c, notAfter := c.tpl.notAfter, dnsNames := c.tpl.dnsNames,
        ipAddresses := c.tpl.ipAddresses, otherNames := [], publicKey := c.subject,
        mayIssue := c.tpl.isCA }
    | _ => .error "x509: malformed certificate"
  parseECPrivateKey
    | .key k => .ok k
    | _ => .error "x509: failed to parse EC private key"
  parsePKCS8PrivateKey _ := .error "x509: failed to parse private key"
  isECDSA _ := true
  marshalECPrivateKey k := .ok (.key k)
  loadKey
    | .pem (.key k) => some k
    | _ => none
  publicKey k := k
  generateKey entropy := .ok (100 + entropy)
  randInt entropy := .ok entropy
  createCertificate _ tpl parent pub key :=
    match parent with
    | none => .ok (.cert ⟨tpl, pub, key⟩)
    | some p =>
      if p.publicKey = key then .ok (.cert ⟨tpl, pub, key⟩)
      else .error "x509: provided PrivateKey doesn't match parent's PublicKey"
  verifies cert pub := match cert.raw with
    | .cert c => c.signer = pub
    | _ => false
  parseIP _ := none

theorem ledger_correct : ledger.Correct where
  decode_encode _ _ := rfl
  parse_marshal := by
    intro k b h
    obtain rfl := Except.ok.inj h
    rfl
  load_marshal := by
    intro k b h type
    obtain rfl := Except.ok.inj h
    rfl
  created := by
    intro entropy tpl parent pub key der h
    cases parent with
    | none =>
      obtain rfl := Except.ok.inj h
      have hend : tpl.notAfter ≤ tpl.notAfter + 1 := by omega
      refine ⟨?_, _, rfl, rfl, hend, rfl, rfl, rfl, by simp [ledger]⟩
      rintro p hp
      cases hp
    | some p =>
      simp only [ledger] at h
      split at h
      · next hkey =>
        obtain rfl := Except.ok.inj h
        have hend : tpl.notAfter ≤ tpl.notAfter + 1 := by omega
        refine ⟨?_, _, rfl, rfl, hend, rfl, rfl, rfl, by simp [ledger]⟩
        rintro q hq
        obtain rfl := Option.mem_some_iff.mp hq
        exact hkey.symm
      · cases h

def webhookOptions : Options where
  «namespace» := "multigres-operator"
  caSecretName := "webhook-ca"
  serverSecretName := "webhook-certs"
  serviceName := "webhook"

def caCert : Text :=
  .pem (.cert ⟨{ serialNumber := 1, commonName := "CA", organization := "", notBefore := 0
                 notAfter := 365 * 24 * 3600, keyUsage := [.certSign], extKeyUsage := []
                 isCA := true }, 1, 1⟩)

def serverCert : Text :=
  .pem (.cert ⟨{ serialNumber := 2, commonName := "webhook", organization := "", notBefore := 0
                 notAfter := 365 * 24 * 3600, dnsNames := webhookOptions.dnsNames
                 keyUsage := [], extKeyUsage := [.serverAuth] }, 2, 1⟩)

def caSecret : Data Text := Table.ofList [("ca.crt", caCert), ("ca.key", .pem (.key 1))]

def keyless : Secrets Text where
  ca := some caSecret
  server := some (Table.ofList [("tls.crt", serverCert)])

def certless : Secrets Text where
  ca := some caSecret
  server := some (Table.ofList [("tls.key", .pem (.key 2))])

theorem not_isServerKey_keyless (cert : Certificate Text ℕ) :
    ¬ IsServerKey ledger keyless.server cert := by
  rintro ⟨d, key, hd, hload, -⟩
  obtain rfl := Option.some.inj hd
  cases hload

end Sample

section

open Cert.Sample

/-- A pass makes a new server Secret in place of one without a certificate. -/
theorem reconcilePKI_heals_certless :
    ((reconcilePKI ledger webhookOptions).run (cluster Text) (fun _ => undisturbed 0)
        certless).result = .ok () ∧
      Healthy ledger webhookOptions 0
        ((reconcilePKI ledger webhookOptions).run (cluster Text) (fun _ => undisturbed 0)
          certless).state := by
  have hnone (cert : Certificate Text ℕ) : ¬ IsServerCert ledger certless.server cert := by
    rintro ⟨d, hd, hcert⟩
    obtain rfl := Option.some.inj hd
    cases hcert
  have hsound : Sound ledger webhookOptions 0 certless :=
    fun _ cert _ hkeeps => absurd hkeeps.1 (hnone cert)
  have hresult : ((reconcilePKI ledger webhookOptions).run (cluster Text) (fun _ => undisturbed 0)
      certless).result = .ok () := by rfl
  exact ⟨hresult, (reconcilePKI_heals_iff ledger_correct).mpr hsound _ (fun _ => le_rfl) hresult
    fun _ _ _ cert _ _ _ hcert => absurd hcert (hnone cert)⟩

/-- **A pass does not heal**: a server Secret that has lost its key is kept, and the pass succeeds. -/
theorem reconcilePKI_keeps_keyless :
    ∃ (c : Crypto Text ℕ ℕ) (opts : Options) (s : Secrets Text) (orc : ℕ → Answer),
      c.Correct ∧ FreshCA c opts 0 s ((reconcilePKI c opts).run (cluster Text) orc s).state ∧
      ((reconcilePKI c opts).run (cluster Text) orc s).result = .ok () ∧
      ¬ Healthy c opts 0 ((reconcilePKI c opts).run (cluster Text) orc s).state := by
  refine ⟨ledger, webhookOptions, keyless, fun _ => undisturbed 0, ledger_correct, ?_, by rfl, ?_⟩
  · intro entropy now a cert _ _ hgenerated hcert
    obtain ⟨d, hd, hcert⟩ := hcert
    obtain rfl := Option.some.inj hd
    obtain rfl := Option.some.inj hcert
    obtain rfl := Except.ok.inj hgenerated
    -- the certificate is signed with key 1, and the new CA has another one
    have hsigner : ¬ 1 = 100 + entropy := by omega
    simp [Crypto.checkSignatureFrom, ledger, hsigner]
  · rintro ⟨a, cert, -, -, -, hserverKey, -⟩
    exact not_isServerKey_keyless cert hserverKey

end

end MultigresOperator.Cert
