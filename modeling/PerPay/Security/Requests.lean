/-
  **Signed requests.**

  The signing payload joins eight lines, none of which can hold a line break: it determines the lines, and
  with them the method, the decoded target, the client, the timestamp, the nonce and the hash of the body
  (`sameRequest_of_payload_eq`).  Verification builds the payload of the request that was signed again, so
  the signature is the expected one and only the clock decides (`verify_signed`).
-/
import PerPay.Security.Targets

namespace PerPay.Security

open Bytes Checks

variable {normalizeNFC : String → String} {sha256 : List UInt8 → Digest} {hmacSha256 : List UInt8 → List UInt8 → Digest}

/-! ## What the checks let through -/

theorem canonicalizeMethod_ok {method canonical : String} (h : canonicalizeMethod method = .ok canonical) :
    methodPattern method.toList = true ∧ canonical.toList = method.toList.map Char.toUpper := by
  unfold canonicalizeMethod at h
  rw [refuse_bind_ok, pure_ok] at h
  obtain ⟨hcheck, rfl⟩ := h
  exact ⟨by simpa using (Bool.or_eq_false_iff.mp hcheck).2, String.toList_ofList⟩

theorem validateClientId_ok {clientId canonical : String} (h : validateClientId clientId = .ok canonical) :
    clientIdPattern clientId.toList = true ∧ clientId = canonical := by
  unfold validateClientId at h
  rw [refuse_bind_ok, pure_ok, Bool.not_eq_false'] at h
  exact h

theorem parseTimestamp_ok {timestamp : String} {parsed : String × Nat} (h : parseTimestamp timestamp = .ok parsed) :
    timestampPattern timestamp.toList = true ∧ parsed = (timestamp, decimalNumber timestamp.toList) := by
  unfold parseTimestamp at h
  rw [refuse_bind_ok, refuse_bind_ok, pure_ok, Bool.not_eq_false'] at h
  exact ⟨h.1, h.2.2.symm⟩

theorem validateNonce_ok {nonce canonical : String} (h : validateNonce nonce = .ok canonical) :
    Identity.nonceShape nonce = true ∧ nonce = canonical := by
  unfold validateNonce at h
  rw [refuse_bind_ok, refuse_bind_ok, pure_ok, Bool.not_eq_false'] at h
  exact ⟨h.1, h.2.2⟩

/-! ## No line breaks -/

def OneLine (s : String) : Prop := '\n' ∉ s.toList

theorem oneLine_of_all {s : String} {p : Char → Bool} (h : s.toList.all p = true) (hp : p '\n' = false) : OneLine s :=
  fun hmem => Bool.false_ne_true (hp.symm.trans (List.all_eq_true.mp h '\n' hmem))

theorem oneLine_method {method canonical : String} (h : canonicalizeMethod method = .ok canonical) :
    OneLine canonical := by
  obtain ⟨hpattern, hcanonical⟩ := canonicalizeMethod_ok h
  unfold OneLine
  rw [hcanonical, List.mem_map]
  rintro ⟨c, hc, hupper⟩
  unfold methodPattern at hpattern
  have hcharacter := List.all_eq_true.mp (Bool.and_eq_true _ _ ▸ hpattern).2 c hc
  have hbreak : c = '\n' := by
    unfold Char.toUpper at hupper
    split at hupper
    next hlower =>
      have hval := congrArg Char.toNat hupper
      have hlow : 97 ≤ c.toNat := UInt32.le_iff_toNat_le.mp hlower.1
      have hhigh : c.toNat ≤ 122 := UInt32.le_iff_toNat_le.mp hlower.2
      have hsub : (c.val + (('A'.val - 'a'.val) : UInt32)).toNat = 10 := hval
      rw [UInt32.toNat_add] at hsub
      have hdiff : ('A'.val - 'a'.val : UInt32).toNat = 4294967264 := rfl
      have hc' : c.val.toNat = c.toNat := rfl
      omega
    next => exact hupper
  subst hbreak
  exact absurd hcharacter (by decide)

theorem oneLine_target {target canonical : String}
    (h : canonicalizeApiRequestTarget normalizeNFC target = .ok canonical) : OneLine canonical := by
  obtain ⟨-, segments, query, hread, rfl⟩ := canonicalizeApiRequestTarget_ok.mp h
  unfold OneLine
  rw [String.toList_ofList]
  intro hmem
  rcases hread.encode.characters '\n' hmem with heq | heq | hc
  · exact absurd heq (by decide)
  · exact absurd heq (by decide)
  · exact absurd hc (by decide)

theorem oneLine_clientId {clientId : String} (h : clientIdPattern clientId.toList = true) : OneLine clientId := by
  unfold OneLine
  unfold clientIdPattern at h
  split at h
  next => cases h
  next c cs hlist =>
    rw [hlist]
    simp only [Bool.and_eq_true, decide_eq_true_eq] at h
    intro hmem
    rcases List.mem_cons.mp hmem with rfl | hmem
    · exact absurd h.1.1.1 (by decide)
    · exact absurd (List.all_eq_true.mp h.2 '\n' hmem) (by decide)

theorem oneLine_timestamp {timestamp : String} (h : timestampPattern timestamp.toList = true) : OneLine timestamp := by
  unfold OneLine
  unfold timestampPattern at h
  split at h
  next => cases h
  next c cs hlist =>
    rw [hlist]
    simp only [Bool.and_eq_true, decide_eq_true_eq] at h
    intro hmem
    rcases List.mem_cons.mp hmem with rfl | hmem
    · exact absurd h.1.1.1.1 (by decide)
    · exact absurd (List.all_eq_true.mp h.2 '\n' hmem) (by decide)

theorem oneLine_nonce {nonce : String} (h : Identity.nonceShape nonce = true) : OneLine nonce := by
  unfold Identity.nonceShape at h
  exact oneLine_of_all (Bool.and_eq_true _ _ ▸ h).2 rfl

theorem oneLine_hash (body : List UInt8) : OneLine (hashBody sha256 body) := by
  unfold OneLine hashBody
  rw [String.toList_ofList]
  intro hmem
  obtain ⟨n, hn, hdigit⟩ := mem_hex hmem
  have hall : ∀ n < 16, '\n' ≠ Nat.digitChar n := by decide
  exact hall n hn hdigit

/-! ## Payloads -/

/-- What an accepted request is made of. -/
structure Material (normalizeNFC : String → String) (sha256 : List UInt8 → Digest) (request : ApiRequest)
    (material : CanonicalRequestMaterial) : Prop where
  method : canonicalizeMethod request.method = .ok material.method
  target : canonicalizeApiRequestTarget normalizeNFC request.target = .ok material.canonicalTarget
  clientIdPattern : clientIdPattern request.clientId.toList = true
  clientId : request.clientId = material.clientId
  timestampPattern : timestampPattern request.timestamp.toList = true
  timestampText : request.timestamp = material.timestampText
  timestamp : material.timestamp = decimalNumber request.timestamp.toList
  nonceShape : Identity.nonceShape request.nonce = true
  nonce : request.nonce = material.nonce
  bodySha256 : material.bodySha256 = hashBody sha256 request.body
  payload : material.payload = signingPayload material.method material.canonicalTarget material.timestampText
    material.nonce material.clientId material.bodySha256

theorem canonicalizeRequest_ok {request : ApiRequest} {material : CanonicalRequestMaterial}
    (h : canonicalizeRequest normalizeNFC sha256 request = .ok material) :
    Material normalizeNFC sha256 request material := by
  unfold canonicalizeRequest at h
  obtain ⟨method, hmethod, h⟩ := bind_ok.mp h
  obtain ⟨target, htarget, h⟩ := bind_ok.mp h
  obtain ⟨clientId, hclientId, h⟩ := bind_ok.mp h
  obtain ⟨timestamp, htimestamp, h⟩ := bind_ok.mp h
  obtain ⟨nonce, hnonce, h⟩ := bind_ok.mp h
  obtain rfl := pure_ok.mp h
  obtain ⟨hclientPattern, hclient⟩ := validateClientId_ok hclientId
  obtain ⟨htimePattern, rfl⟩ := parseTimestamp_ok htimestamp
  obtain ⟨hnonceShape, hnonceEq⟩ := validateNonce_ok hnonce
  exact
    { method := hmethod
      target := htarget
      clientIdPattern := hclientPattern
      clientId := hclient
      timestampPattern := htimePattern
      timestampText := rfl
      timestamp := rfl
      nonceShape := hnonceShape
      nonce := hnonceEq
      bodySha256 := rfl
      payload := rfl }

/-- The lines of the signing payload. -/
def payloadLines (material : CanonicalRequestMaterial) : List (List Char) :=
  [signatureDomain, apiSignatureVersion, material.method, material.canonicalTarget, material.timestampText,
    material.nonce, material.clientId, material.bodySha256].map String.toList

theorem Material.payload_eq {request : ApiRequest} {material : CanonicalRequestMaterial}
    (h : Material normalizeNFC sha256 request material) :
    material.payload = utf8 (String.ofList (['\n'].intercalate (payloadLines material))) := by
  rw [h.payload]
  unfold signingPayload payloadLines
  congr 1
  rw [← String.toList_inj, String.toList_ofList, String.toList_intercalate]
  rfl

theorem Material.oneLine {request : ApiRequest} {material : CanonicalRequestMaterial}
    (h : Material normalizeNFC sha256 request material) : ∀ line ∈ payloadLines material, '\n' ∉ line := by
  have hclient : OneLine material.clientId := h.clientId ▸ oneLine_clientId h.clientIdPattern
  have htime : OneLine material.timestampText := h.timestampText ▸ oneLine_timestamp h.timestampPattern
  have hnonce : OneLine material.nonce := h.nonce ▸ oneLine_nonce h.nonceShape
  have hhash : OneLine material.bodySha256 := h.bodySha256 ▸ oneLine_hash request.body
  unfold payloadLines
  simp only [List.map_cons, List.map_nil, List.forall_mem_cons, List.not_mem_nil, false_implies, implies_true, and_true]
  exact ⟨by decide, by decide, oneLine_method h.method, oneLine_target h.target, htime, hnonce, hclient, hhash⟩

/-- The requests agree on the method up to case, the decoded target, the client, the timestamp, the nonce
    and the hash of the body. -/
structure SameRequest (sha256 : List UInt8 → Digest) (request request' : ApiRequest) : Prop where
  method : request.method.toList.map Char.toUpper = request'.method.toList.map Char.toUpper
  target : SameTarget request.target request'.target
  clientId : request.clientId = request'.clientId
  timestamp : request.timestamp = request'.timestamp
  nonce : request.nonce = request'.nonce
  body : sha256 request.body = sha256 request'.body

/-- **The payload determines the request.** -/
theorem sameRequest_of_payload_eq {request request' : ApiRequest} {material material' : CanonicalRequestMaterial}
    (h : canonicalizeRequest normalizeNFC sha256 request = .ok material)
    (h' : canonicalizeRequest normalizeNFC sha256 request' = .ok material')
    (heq : material.payload = material'.payload) : SameRequest sha256 request request' := by
  have hm := canonicalizeRequest_ok h
  have hm' := canonicalizeRequest_ok h'
  rw [hm.payload_eq, hm'.payload_eq] at heq
  have hlines : payloadLines material = payloadLines material' :=
    Joined.eq_of_intercalate_eq '\n' rfl hm.oneLine (String.ofList_injective (utf8_injective heq))
  simp only [payloadLines, List.map_cons, List.map_nil, List.cons.injEq, String.toList_inj, true_and, and_true] at hlines
  obtain ⟨hmethod, htarget, htimestamp, hnonce, hclient, hbody⟩ := hlines
  refine ⟨?_, ?_, ?_, ?_, ?_, ?_⟩
  · rw [← (canonicalizeMethod_ok hm.method).2, ← (canonicalizeMethod_ok hm'.method).2, hmethod]
  · exact (canonicalTarget_eq_iff hm.target hm'.target).mp htarget
  · rw [hm.clientId, hm'.clientId, hclient]
  · rw [hm.timestampText, hm'.timestampText, htimestamp]
  · rw [hm.nonce, hm'.nonce, hnonce]
  · rw [hm.bodySha256, hm'.bodySha256] at hbody
    have hbytes := hex_injective (String.ofList_injective hbody)
    cases hd : sha256 request.body
    cases hd' : sha256 request'.body
    rw [hd, hd'] at hbytes
    dsimp only at hbytes
    subst hbytes
    rfl

/-! ## Verification -/

/-- The request to verify, as the signed one arrives. -/
def ApiRequestToSign.received (input : ApiRequestToSign) (authentication : ApiRequestAuthentication) (now : Int)
    (skew : Option Rat) : ApiRequestToVerify :=
  { secret := input.secret
    method := input.method
    target := input.target
    body := input.body
    authentication := authentication
    now := some now
    maxClockSkewSeconds := skew }

/-- The reading of the clock is at most the skew away from the timestamp, and the skew is a whole number
    that the code accepts. -/
structure InClockWindow (timestamp : String) (now : Int) (skew : Option Rat) : Prop where
  whole : (skew.getD defaultApiSignatureMaxSkewSeconds).den = 1
  nonneg : 0 ≤ skew.getD defaultApiSignatureMaxSkewSeconds
  bounded : skew.getD defaultApiSignatureMaxSkewSeconds ≤ maxClockSkewSeconds
  close : (((now / 1000 - (decimalNumber timestamp.toList : Int)).natAbs : Nat) : Rat) ≤
    skew.getD defaultApiSignatureMaxSkewSeconds

theorem validateTimestampWindow_ok {timestamp : String} {now : Int} {skew : Option Rat}
    (h : InClockWindow timestamp now skew) :
    validateTimestampWindow (decimalNumber timestamp.toList) (some now) (skew.getD defaultApiSignatureMaxSkewSeconds) =
      .ok () := by
  unfold validateTimestampWindow validVerificationClock
  rw [refuse_bind_ok, refuse_ok]
  constructor
  · simp only [Option.isSome_some, Bool.true_and, h.whole, decide_true, Bool.not_eq_false', Bool.and_eq_true,
      Bool.not_eq_true', decide_eq_false_iff_not, not_lt, gt_iff_lt]
    exact ⟨h.nonneg, h.bounded⟩
  · rw [Option.any_some, decide_eq_false_iff_not, gt_iff_lt, not_lt]
    exact h.close

theorem signaturePattern_hex (digest : Digest) : signaturePattern (hex digest.bytes) = true := by
  have hdigits : ∀ n < 16, (Nat.digitChar n).isDigit || ('a' ≤ Nat.digitChar n && Nat.digitChar n ≤ 'f') := by decide
  unfold signaturePattern
  rw [length_hex, digest.length_eq, Bool.and_eq_true, List.all_eq_true]
  refine ⟨by decide, fun c hc => ?_⟩
  obtain ⟨n, hn, rfl⟩ := mem_hex hc
  exact hdigits n hn

theorem decodeSignature_hex (digest : Digest) :
    decodeSignature (String.ofList (hex digest.bytes)) = .ok digest.bytes := by
  unfold decodeSignature
  rw [refuse_bind_ok, String.toList_ofList, signaturePattern_hex, ofHex_hex]
  exact ⟨rfl, rfl⟩

/-- **A signed request is verified** within the clock window. -/
theorem verify_signed {input : ApiRequestToSign} {authentication : ApiRequestAuthentication} {now : Int}
    {skew : Option Rat} (h : signApiRequest normalizeNFC sha256 hmacSha256 input = .ok authentication)
    (hclock : InClockWindow authentication.timestamp now skew) :
    ∃ verified, verifyApiRequestSignature normalizeNFC sha256 hmacSha256 (input.received authentication now skew) =
      .ok verified ∧ verified.clientId = input.clientId ∧ verified.nonce = input.nonce := by
  unfold signApiRequest at h
  obtain ⟨_, hsecret, h⟩ := bind_ok.mp h
  obtain ⟨material, hmaterial, h⟩ := bind_ok.mp h
  obtain rfl := pure_ok.mp h
  have hm := canonicalizeRequest_ok hmaterial
  -- The verifier reads client, timestamp and nonce off the signed authentication: they are the request's.
  have hrequest : (input.received
      { version := apiSignatureVersion
        clientId := material.clientId
        timestamp := material.timestampText
        nonce := material.nonce
        signature := String.ofList (hex (hmacSha256 input.secret material.payload).bytes) } now skew).request =
      input.toApiRequest := by
    unfold ApiRequestToVerify.request ApiRequestToSign.received
    rw [← hm.clientId, ← hm.timestampText, ← hm.nonce]
  refine ⟨
    { version := apiSignatureVersion
      clientId := material.clientId
      timestamp := material.timestamp
      nonce := material.nonce
      method := material.method
      canonicalTarget := material.canonicalTarget
      bodySha256 := material.bodySha256 }, ?_, hm.clientId.symm, hm.nonce.symm⟩
  unfold verifyApiRequestSignature
  rw [hrequest]
  refine bind_ok.mpr ⟨(), hsecret, ?_⟩
  refine refuse_bind_ok.mpr ⟨by simp [ApiRequestToSign.received], ?_⟩
  refine bind_ok.mpr ⟨material, hmaterial, ?_⟩
  refine bind_ok.mpr ⟨_, decodeSignature_hex _, ?_⟩
  refine refuse_bind_ok.mpr ⟨by simp [ApiRequestToSign.received], ?_⟩
  refine bind_ok.mpr ⟨(), ?_, rfl⟩
  have hwindow := validateTimestampWindow_ok hclock
  dsimp only at hwindow
  rwa [← hm.timestampText, ← hm.timestamp] at hwindow

/-! ## The scheme as a whole -/

/-- **Canonical targets and signatures.**  A canonical target is accepted and unchanged; canonical targets are
    equal exactly when the decoded targets are the same; equal payloads come from the same request; and a
    signed request is verified within the clock window. -/
theorem canonical_requests (normalizeNFC : String → String) (sha256 : List UInt8 → Digest)
    (hmacSha256 : List UInt8 → List UInt8 → Digest) :
    (∀ target canonical, canonicalizeApiRequestTarget normalizeNFC target = .ok canonical →
      canonicalizeApiRequestTarget normalizeNFC canonical = .ok canonical) ∧
    (∀ target target' canonical canonical', canonicalizeApiRequestTarget normalizeNFC target = .ok canonical →
      canonicalizeApiRequestTarget normalizeNFC target' = .ok canonical' →
      (canonical = canonical' ↔ SameTarget target target')) ∧
    (∀ request request' material material', canonicalizeRequest normalizeNFC sha256 request = .ok material →
      canonicalizeRequest normalizeNFC sha256 request' = .ok material' → material.payload = material'.payload →
      SameRequest sha256 request request') ∧
    (∀ input authentication now skew, signApiRequest normalizeNFC sha256 hmacSha256 input = .ok authentication →
      InClockWindow authentication.timestamp now skew →
      ∃ verified, verifyApiRequestSignature normalizeNFC sha256 hmacSha256 (input.received authentication now skew) =
        .ok verified ∧ verified.clientId = input.clientId ∧ verified.nonce = input.nonce) := by
  refine ⟨?_, ?_, ?_, ?_⟩
  · intro target canonical h
    exact canonicalizeApiRequestTarget_idempotent h
  · intro target target' canonical canonical' h h'
    exact canonicalTarget_eq_iff h h'
  · intro request request' material material' h h' heq
    exact sameRequest_of_payload_eq h h' heq
  · intro input authentication now skew h hclock
    exact verify_signed h hclock

/-- A listing of orders, with the digests that SHA-256 and HMAC-SHA-256 give for its empty body and for its
    payload under the key of the bytes 0 to 31.  Its text is ASCII, which is normal. -/
theorem canonical_requests_listing :
    let sha256 : List UInt8 → Digest := fun _ =>
      ⟨[227, 176, 196, 66, 152, 252, 28, 20, 154, 251, 244, 200, 153, 111, 185, 36,
        39, 174, 65, 228, 100, 155, 147, 76, 164, 149, 153, 27, 120, 82, 184, 85], rfl⟩
    let hmacSha256 : List UInt8 → List UInt8 → Digest := fun _ _ =>
      ⟨[5, 42, 69, 192, 115, 201, 185, 252, 152, 13, 122, 109, 13, 95, 150, 215,
        167, 171, 9, 44, 167, 41, 239, 39, 109, 88, 231, 11, 219, 110, 2, 208], rfl⟩
    let nonce := "AAAAAAAAAAAAAAAAAAAAAAAAAAAAAAAAAAAAAAAAAAA"
    let request : ApiRequest := ⟨"GET", "/v1/orders?b=2&a=%41", [], "shop-1", "1700000000", nonce⟩
    let request' : ApiRequest := ⟨"get", "/v1/%6frders?a=A&b=2", [], "shop-1", "1700000000", nonce⟩
    let input : ApiRequestToSign := { toApiRequest := request, secret := (List.range 32).map UInt8.ofNat }
    let authentication : ApiRequestAuthentication :=
      ⟨"v1", "shop-1", "1700000000", nonce, "052a45c073c9b9fc980d7a6d0d5f96d7a7ab092ca729ef276d58e70bdb6e02d0"⟩
    canonicalizeApiRequestTarget id "/v1/orders?a=A&b=2" = .ok "/v1/orders?a=A&b=2" ∧
    SameTarget request.target request'.target ∧ SameRequest sha256 request request' ∧
    ∃ verified, verifyApiRequestSignature id sha256 hmacSha256 (input.received authentication 1700000299000 none) =
      .ok verified ∧ verified.clientId = "shop-1" ∧ verified.nonce = nonce := by
  intro sha256 hmacSha256 nonce request request' input authentication
  obtain ⟨hidempotent, hequal, hpayload, hverify⟩ := canonical_requests id sha256 hmacSha256
  have htarget : canonicalizeApiRequestTarget id request.target = .ok "/v1/orders?a=A&b=2" := by decide +kernel
  have htarget' : canonicalizeApiRequestTarget id request'.target = .ok "/v1/orders?a=A&b=2" := by decide +kernel
  have hmaterial : (canonicalizeRequest id sha256 request).toOption.isSome = true := by decide +kernel
  have hsame : canonicalizeRequest id sha256 request' = canonicalizeRequest id sha256 request := by decide +kernel
  refine ⟨hidempotent _ _ htarget, (hequal _ _ _ _ htarget htarget').mp rfl, ?_, ?_⟩
  · cases h : canonicalizeRequest id sha256 request with
    | error e =>
      rw [h] at hmaterial
      cases hmaterial
    | ok material => exact hpayload _ _ material material h (hsame.trans h) rfl
  · refine hverify input authentication 1700000299000 none (by decide +kernel) ⟨rfl, ?_, ?_, ?_⟩
    · decide +kernel
    · decide +kernel
    · decide +kernel

end PerPay.Security
