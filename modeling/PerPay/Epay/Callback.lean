/-
  **The round trip of a callback address.**

  A merchant's address has parameters of its own, under names that a notification does not use.  The
  notification is signed together with them and appended to them, and its signature takes the place of the
  one it was built with.  The receiver parses the query of the address:

  1. `search_append`: the query is what `URLSearchParams` writes of the merchant's parameters and the
     notification's, and the address shows it between its first `?` and its first `#` (`searchOf_href`);
  2. `parsed_received`: the parameters are valid and their names distinct, so the parser reads them back, up to
     the 64 KiB that it reads (`parse_written`);
  3. `accepts_received`: what the signature covers is what was signed, whatever the order of the parameters.
-/
import PerPay.Epay.Parsing

namespace PerPay.Epay

open Bytes Checks

/-! ## Addresses -/

/-- The query of an address with its question mark, if it is not empty. -/
def searchOf (href : String) : String :=
  match (Joined.cutAt '?' (Joined.cutAt '#' href.toList).1).2 with
  | some (c :: cs) => String.ofList ('?' :: c :: cs)
  | _ => ""

theorem cut_href (url : Url) :
    (Joined.cutAt '#' url.href.toList).1 = url.base ++ (url.query.elim [] ('?' :: ·)) := by
  have hbase : '#' ∉ url.base ++ (url.query.elim [] ('?' :: ·)) := by
    intro hmem
    rcases List.mem_append.mp hmem with hmem | hmem
    · exact url.base_plain.2 hmem
    · cases hquery : url.query with
      | none =>
        rw [hquery] at hmem
        exact List.not_mem_nil hmem
      | some q =>
        rw [hquery] at hmem
        rcases List.mem_cons.mp hmem with hmem | hmem
        · exact absurd hmem (by decide)
        · exact (url.query_plain q hquery '#' hmem).2 rfl
  unfold Url.href
  rw [String.toList_ofList]
  cases url.fragment with
  | none =>
    show (Joined.cutAt '#' (_ ++ [])).1 = _
    rw [List.append_nil, Joined.cutAt_of_not_mem hbase]
  | some fragment =>
    show (Joined.cutAt '#' (_ ++ '#' :: fragment)).1 = _
    rw [Joined.cutAt_append hbase]

/-- The text of an address shows its query. -/
theorem searchOf_href (url : Url) : searchOf url.href = url.search := by
  unfold searchOf Url.search
  rw [cut_href]
  cases hquery : url.query with
  | none =>
    show (match (Joined.cutAt '?' (url.base ++ [])).2 with
      | some (c :: cs) => String.ofList ('?' :: c :: cs)
      | _ => "") = ""
    rw [List.append_nil, Joined.cutAt_of_not_mem url.base_plain.1]
  | some q =>
    have hcut : (Joined.cutAt '?' (url.base ++ '?' :: q)).2 = some q :=
      congrArg Prod.snd (Joined.cutAt_append url.base_plain.1)
    refine (congrArg (fun after : Option (List Char) => match after with
      | some (c :: cs) => String.ofList ('?' :: c :: cs)
      | _ => "") hcut).trans ?_
    cases q with
    | nil => rfl
    | cons c cs => rfl

theorem withoutMark_search (url : Url) : withoutMark url.search = url.query.getD [] := by
  unfold Url.search
  cases url.query with
  | none => rfl
  | some q =>
    cases q with
    | nil => rfl
    | cons c cs =>
      show withoutMark (String.ofList ('?' :: c :: cs)) = c :: cs
      unfold withoutMark
      rw [String.toList_ofList]
      exact if_pos rfl

/-- **The query after appending**: what the parser read of the address, and the parameters behind it. -/
theorem search_append (replaced : List UInt8 → String) {url : Url} {existing ps : EpayParameters}
    (h : parseEpayParameters url.search .absent = .ok existing) (hne : ps ≠ []) :
    (url.append replaced ps).search = String.ofList ('?' :: Form.serialize (existing ++ ps)) := by
  obtain ⟨-, hreads, -⟩ := parse_ok.mp h
  rw [withoutMark_search] at hreads
  have hascii : ∀ c ∈ url.query.getD [], c.toNat < 128 := by
    intro c hc
    cases hquery : url.query with
    | none =>
      rw [hquery] at hc
      exact absurd hc List.not_mem_nil
    | some q =>
      rw [hquery] at hc
      exact (url.query_plain q hquery c hc).1
  have hwritten : Form.serialize (existing ++ ps) ≠ [] := by
    refine Joined.intercalate_ne_nil (by simp [hne]) fun x hx => ?_
    obtain ⟨p, -, rfl⟩ := List.mem_map.mp hx
    exact Form.writePair_ne_nil p
  have hquery : (url.append replaced ps).query = some (Form.serialize (existing ++ ps)) := by
    unfold Url.append
    rw [if_neg hne]
    show some (Form.serialize (Form.parse replaced (url.query.getD []) ++ ps)) = _
    rw [lenient_eq replaced hascii hreads]
  unfold Url.search
  rw [hquery]
  cases hserialized : Form.serialize (existing ++ ps) with
  | nil => exact absurd hserialized hwritten
  | cons c cs => rfl

/-! ## The fields of a notification -/

def signType : EpayProtocol → String
  | .epayV1 => "MD5"
  | .epayV2 => "RSA"

/-- The names of a notification besides `sign_type` and `sign`. -/
def fieldNames : List String :=
  ["pid", "trade_no", "out_trade_no", "type", "trade_status", "name", "money", "param", "api_trade_no", "buyer",
    "addtime", "endtime", "timestamp"]

theorem names_truthyProperty (name : String) (value : Option String) :
    (names (truthyProperty name value)).Sublist [name] := by
  unfold truthyProperty
  split
  · split
    · exact List.nil_sublist _
    · exact List.Sublist.refl _
  · exact List.nil_sublist _

/-- The fields are some of the names, in order, and the type of the signature last. -/
theorem notificationFields_eq (order : EpayNotificationOrder) (protocol : EpayProtocol) (money : String) (now : Int) :
    ∃ fields, notificationFields order protocol money now = fields ++ [("sign_type", signType protocol)] ∧
      (names fields).Sublist fieldNames := by
  obtain ⟨fields, hfields, hfields', hparam⟩ : ∃ fields,
      notificationFields order .epayV1 money now = ([("pid", order.pid), ("trade_no", order.tradeNo),
        ("out_trade_no", order.outTradeNo), ("type", "alipay"), ("trade_status", "TRADE_SUCCESS"), ("name", order.name),
        ("money", money)] ++ fields) ++ [("sign_type", signType .epayV1)] ∧
      notificationFields order .epayV2 money now = (([("pid", order.pid), ("trade_no", order.tradeNo),
        ("out_trade_no", order.outTradeNo), ("type", "alipay"), ("trade_status", "TRADE_SUCCESS"), ("name", order.name),
        ("money", money)] ++ fields) ++ (truthyProperty "api_trade_no" order.apiTradeNo ++
          truthyProperty "buyer" order.buyer ++ truthyProperty "addtime" order.addTime ++
          truthyProperty "endtime" order.endTime ++ [("timestamp", String.ofList (Json.intText (now / 1000)))])) ++
        [("sign_type", signType .epayV2)] ∧
      (names fields).Sublist ["param"] := by
    cases hparam : order.param with
    | none =>
      refine ⟨[], ?_, ?_, List.nil_sublist _⟩ <;> (unfold notificationFields; rw [hparam])
      · rfl
      · simp only [List.append_assoc, List.cons_append, List.nil_append]
        rfl
    | some param =>
      refine ⟨[("param", param)], ?_, ?_, List.Sublist.refl _⟩ <;> (unfold notificationFields; rw [hparam])
      · rfl
      · simp only [List.append_assoc, List.cons_append, List.nil_append]
        rfl
  cases protocol with
  | epayV1 =>
    refine ⟨_, hfields, ?_⟩
    rw [names_append]
    exact (List.Sublist.append (List.Sublist.refl _) hparam).trans (List.sublist_append_left _ _)
  | epayV2 =>
    refine ⟨_, hfields', ?_⟩
    simp only [names_append]
    refine List.Sublist.append (List.Sublist.append (List.Sublist.refl _) hparam) ?_
    have hnames := fun (name : String) (value : Option String) => names_truthyProperty name value
    exact ((((hnames "api_trade_no" order.apiTradeNo).append (hnames "buyer" order.buyer)).append
      (hnames "addtime" order.addTime)).append (hnames "endtime" order.endTime)).append (List.Sublist.refl ["timestamp"])

theorem fieldNames_reserved : ∀ name ∈ fieldNames ++ ["sign_type", "sign"],
    name ≠ "" ∧ name.toList.all nameCharacter = true ∧ epayNotificationFields.contains name = true := by
  decide +kernel

theorem fieldNames_nodup : (fieldNames ++ ["sign_type", "sign"]).Nodup := by decide +kernel

/-- The notification under some signature. -/
def notificationOf (order : EpayNotificationOrder) (protocol : EpayProtocol) (money : String) (now : Int)
    (sign : String) : EpayParameters :=
  notificationFields order protocol money now ++ [("sign", sign)]

theorem empty_no_ampersand {protocol : EpayProtocol} {text : String} (h : emptyFor protocol text = true) :
    '&' ∉ text.toList := by
  cases protocol with
  | epayV1 =>
    obtain rfl := of_decide_eq_true h
    decide
  | epayV2 =>
    intro hmem
    exact absurd (List.all_eq_true.mp h '&' hmem) (by decide)

section Notification

variable {order : EpayNotificationOrder} {protocol : EpayProtocol} {money sign : String} {now : Int}

/-- Every name of a notification is reserved, and none occurs twice. -/
theorem names_notificationOf (order : EpayNotificationOrder) (protocol : EpayProtocol) (money : String) (now : Int)
    (sign : String) :
    (names (notificationOf order protocol money now sign)).Sublist (fieldNames ++ ["sign_type", "sign"]) := by
  obtain ⟨fields, hfields, hnames⟩ := notificationFields_eq order protocol money now
  unfold notificationOf
  rw [hfields, List.append_assoc, names_append]
  exact hnames.append (List.Sublist.refl _)

theorem setProperty_append {α : Type} {name : String} {old new : α} : ∀ {ps : List (String × α)},
    name ∉ ps.map Prod.fst → setProperty name new (ps ++ [(name, old)]) = ps ++ [(name, new)]
  | [], _ => if_pos rfl
  | p :: ps, h => by
    obtain ⟨hp, hps⟩ := not_or.mp fun hor => h (List.mem_cons.mpr hor)
    rw [List.cons_append, setProperty, if_neg (Ne.symm hp), setProperty_append hps, List.cons_append]

/-- The signature takes the place of the one that was there. -/
theorem setProperty_sign {sign' : String} : setProperty "sign" sign' (notificationOf order protocol money now sign) =
    notificationOf order protocol money now sign' := by
  refine setProperty_append fun hmem => ?_
  have hnodup := (names_notificationOf order protocol money now sign).nodup fieldNames_nodup
  unfold notificationOf at hnodup
  rw [names_append] at hnodup
  exact (List.nodup_append.mp hnodup).2.2 "sign" hmem "sign" (List.mem_singleton_self _) rfl

theorem setProperty_new {α : Type} {name : String} {value : α} : ∀ {ps : List (String × α)}, name ∉ ps.map Prod.fst →
    setProperty name value ps = ps ++ [(name, value)]
  | [], _ => rfl
  | p :: ps, h => by
    obtain ⟨hp, hps⟩ := not_or.mp fun hor => h (List.mem_cons.mpr hor)
    rw [setProperty, if_neg (Ne.symm hp), setProperty_new hps, List.cons_append]

/-- Objects without a common name are put one behind the other. -/
theorem spread_eq_append {ps qs : EpayParameters} (h : (names (ps ++ qs)).Nodup) : spread ps qs = ps ++ qs := by
  induction qs generalizing ps with
  | nil => exact (List.append_nil ps).symm
  | cons q qs ih =>
    have hsplit : ps ++ q :: qs = (ps ++ [q]) ++ qs := by rw [List.append_assoc, List.singleton_append]
    have hq : q.1 ∉ names ps := by
      intro hmem
      rw [names_append] at h
      exact (List.nodup_append.mp h).2.2 q.1 hmem q.1 List.mem_cons_self rfl
    show spread (setProperty q.1 q.2 ps) qs = _
    rw [setProperty_new hq, hsplit]
    refine ih ?_
    rwa [← hsplit]

theorem checkNames_ok {ps : EpayParameters} {u : Unit} (h : checkNames ps = .ok u) :
    ∀ name ∈ names ps, epayNotificationFields.contains name = false := by
  induction ps with
  | nil => exact fun name hname => absurd hname List.not_mem_nil
  | cons p ps ih =>
    obtain ⟨-, h⟩ := refuse_bind_ok.mp h
    obtain ⟨hname, h⟩ := refuse_bind_ok.mp h
    exact List.forall_mem_cons.mpr ⟨hname, ih h⟩

/-- An address that may be appended to shares no name with a notification. -/
theorem received_nodup {existing : EpayParameters} {u : Unit} (hexisting : Parsed existing)
    (hcheck : checkNames existing = .ok u) :
    (names (existing ++ notificationOf order protocol money now sign)).Nodup := by
  rw [names_append, List.nodup_append]
  refine ⟨hexisting.nodup, (names_notificationOf _ _ _ _ _).nodup fieldNames_nodup, ?_⟩
  rintro name hname _ hfield rfl
  have hreserved := (fieldNames_reserved name ((names_notificationOf _ _ _ _ _).subset hfield)).2.2
  exact Bool.false_ne_true ((checkNames_ok hcheck name hname).symm.trans hreserved)

/-- The fields of a notification are valid when its content could be signed. -/
theorem notificationFields_valid {content : String}
    (h : epaySigningContent (signable (notificationFields order protocol money now)) protocol = .ok content) :
    ∀ p ∈ notificationFields order protocol money now, ValidField p := by
  have hsigned := (epaySigningContent_ok.mp h).1
  obtain ⟨fields, hfields, hnames⟩ := notificationFields_eq order protocol money now
  intro p hp
  by_cases hpSigned : isSigned protocol p = true
  · exact hsigned p hp hpSigned
  have hname : p.1 ∈ fieldNames ++ ["sign_type", "sign"] := by
    refine (names_notificationOf order protocol money now "").subset ?_
    unfold notificationOf
    rw [names_append]
    exact List.mem_append_left _ (List.mem_map_of_mem hp)
  obtain ⟨hnamed, hcharacters, -⟩ := fieldNames_reserved p.1 hname
  refine ⟨hnamed, List.all_eq_true.mp hcharacters, ?_⟩
  -- What is not signed is empty, or the type of the signature.
  rw [hfields] at hp
  rcases List.mem_append.mp hp with hp | hp
  · have hfield : p.1 ∈ fieldNames := hnames.subset (List.mem_map_of_mem hp)
    have hne : ∀ name ∈ fieldNames, (name = "sign" || name = "sign_type") = false := by decide +kernel
    unfold isSigned at hpSigned
    rw [hne p.1 hfield, Bool.not_false, Bool.true_and, Bool.not_eq_true', Bool.not_eq_false] at hpSigned
    exact empty_no_ampersand hpSigned
  · obtain rfl := List.mem_singleton.mp hp
    show '&' ∉ (signType protocol).toList
    cases protocol <;> decide

end Notification

/-! ## Signatures -/

theorem property_signable (name : String) (ps : EpayParameters) :
    property name (signable ps) = (property name ps).map Signable.text := by
  unfold property signable
  rw [List.find?_map, Option.map_map, Option.map_map]
  rfl

theorem signText_signable {ps : EpayParameters} {sign : String} (h : property "sign" ps = some sign) :
    signText (signable ps) = some sign := by
  unfold signText
  rw [property_signable, h]
  rfl

theorem otherSignType_signable {type : String} {ps : EpayParameters} (h : property "sign_type" ps = some type) :
    otherSignType type (signable ps) = false := by
  unfold otherSignType
  rw [property_signable, h]
  simp

theorem md5Pattern_hex (digest : Md5Digest) : md5Pattern (hex digest.bytes) = true := by
  have hdigits : ∀ n < 16, ((Nat.digitChar n).isDigit || ('a' ≤ Nat.digitChar n && Nat.digitChar n ≤ 'f')) = true := by
    decide +kernel
  unfold md5Pattern
  rw [length_hex, digest.length_eq, decide_eq_true (by omega), Bool.true_and, List.all_eq_true]
  intro c hc
  obtain ⟨n, hn, rfl⟩ := mem_hex hc
  exact hdigits n hn

section Signatures

variable {M : Type} {env : Environment M} {protocol : EpayProtocol} {ps qs : EpayParameters} {sign : String}

/-- A signature over what has the same content is accepted. -/
theorem verifyEpayV1_accepts {key : String} (h : signEpayV1 env (signable ps) key = .ok sign)
    (hcontent : ∀ content, epaySigningContent (signable ps) .epayV1 = .ok content →
      epaySigningContent (signable qs) .epayV1 = .ok content)
    (hsign : property "sign" qs = some sign) (htype : property "sign_type" qs = some "MD5") :
    verifyEpayV1 env (signable qs) key = .ok true := by
  obtain ⟨hkey, h⟩ := refuse_bind_ok.mp h
  obtain ⟨content, hps, h⟩ := bind_ok.mp h
  have heq := pure_ok.mp h
  have hpattern : md5Pattern sign.toList = true := by
    rw [← heq, String.toList_ofList]
    exact md5Pattern_hex _
  have hagain : signEpayV1 env (signable qs) key = .ok sign :=
    refuse_bind_ok.mpr ⟨hkey, bind_ok.mpr ⟨content, hcontent content hps, pure_ok.mpr heq⟩⟩
  unfold verifyEpayV1
  rw [signText_signable hsign]
  dsimp only
  rw [hpattern, otherSignType_signable htype]
  refine bind_ok.mpr ⟨sign, hagain, ?_⟩
  rw [decide_eq_true rfl]
  rfl

theorem verifyEpayV2_accepts {key publicKey : EpayKey M} {privateObject publicObject : KeyObject M}
    (h : signEpayV2 env (signable ps) key = .ok sign)
    (hprivate : parseEpayRsaKey env key .privateKey = .ok privateObject)
    (hpublic : parseEpayRsaKey env publicKey .publicKey = .ok publicObject)
    (hverify : ∀ message, env.verify publicObject message (env.sign privateObject message) = true)
    (hcontent : ∀ content, epaySigningContent (signable ps) .epayV2 = .ok content →
      epaySigningContent (signable qs) .epayV2 = .ok content)
    (hsign : property "sign" qs = some sign) (htype : property "sign_type" qs = some "RSA") :
    verifyEpayV2 env (signable qs) publicKey = .ok true := by
  obtain ⟨content, hps, h⟩ := bind_ok.mp h
  obtain ⟨object, hobject, h⟩ := bind_ok.mp h
  obtain rfl := Except.ok.inj (hprivate.symm.trans hobject)
  have hlist : sign.toList = Base64.encode (env.sign privateObject (utf8 content)) := by
    rw [← pure_ok.mp h, String.toList_ofList]
  unfold verifyEpayV2
  rw [signText_signable hsign]
  dsimp only
  rw [otherSignType_signable htype, hlist, Base64.encode_shape _ (env.sign_ne_nil _ _), Base64.decode_encode]
  simp only [Bool.not_true, Bool.or_self, Bool.false_eq_true, if_false, ne_eq, not_true_eq_false]
  refine bind_ok.mpr ⟨content, hcontent content hps, bind_ok.mpr ⟨publicObject, hpublic, ?_⟩⟩
  rw [hverify]
  rfl

end Signatures

/-! ## Building -/

section Building

variable {M : Type} (env : Environment M) {target : String} {order : EpayNotificationOrder} {protocol : EpayProtocol}
  {key : EpayKey M} {now : Int} {href : String}

theorem appendEpayParameters_ok {ps : EpayParameters} :
    appendEpayParameters env target ps = .ok href ↔
      ∃ url existing, env.url target = some url ∧ parseEpayParameters url.search .absent = .ok existing ∧
        checkNames existing = .ok () ∧ (url.append env.replaced ps).href = href := by
  unfold appendEpayParameters
  rw [required_bind_ok]
  simp only [bind_ok, pure_ok]
  constructor
  · rintro ⟨url, hurl, existing, hexisting, _, hcheck, rfl⟩
    exact ⟨url, existing, hurl, hexisting, hcheck, rfl⟩
  · rintro ⟨url, existing, hurl, hexisting, hcheck, rfl⟩
    exact ⟨url, hurl, existing, hexisting, (), hcheck, rfl⟩

/-- **Building** signs the notification alone, and then together with the parameters of the address. -/
theorem buildEpayCallbackUrl_ok :
    buildEpayCallbackUrl env target order protocol key now = .ok href ↔
      ∃ url existing money first sign, env.url target = some url ∧
        parseEpayParameters url.search .absent = .ok existing ∧ checkNames existing = .ok () ∧
        moneyFromCents order.moneyCents = .ok money ∧
        signEpay env (signable (notificationFields order protocol money now)) protocol key = .ok first ∧
        signEpay env (signable (existing ++ notificationOf order protocol money now first)) protocol key = .ok sign ∧
        (url.append env.replaced (notificationOf order protocol money now sign)).href = href := by
  constructor
  · intro h
    unfold buildEpayCallbackUrl buildEpayNotification at h
    obtain ⟨_, -, h⟩ := bind_ok.mp h
    obtain ⟨url, hurl, h⟩ := required_bind_ok.mp h
    obtain ⟨existing, hexisting, h⟩ := bind_ok.mp h
    obtain ⟨notification, hnotification, h⟩ := bind_ok.mp h
    obtain ⟨money, hmoney, hnotification⟩ := bind_ok.mp hnotification
    obtain ⟨first, hfirst, hnotification⟩ := bind_ok.mp hnotification
    obtain rfl := pure_ok.mp hnotification
    obtain ⟨sign, hsign, h⟩ := bind_ok.mp h
    obtain ⟨url', existing', hurl', hexisting', hcheck, rfl⟩ := (appendEpayParameters_ok env).mp h
    obtain rfl := Option.some.inj (hurl.symm.trans hurl')
    obtain rfl := Except.ok.inj (hexisting.symm.trans hexisting')
    have hfields : notificationFields order protocol money now ++ [("sign", first)] =
        notificationOf order protocol money now first := rfl
    rw [hfields, spread_eq_append (received_nodup (parsed_of_parse hexisting) hcheck)] at hsign
    rw [hfields, setProperty_sign]
    exact ⟨url, existing, money, first, sign, hurl, hexisting, hcheck, hmoney, hfirst, hsign, rfl⟩
  · rintro ⟨url, existing, money, first, sign, hurl, hexisting, hcheck, hmoney, hfirst, hsign, rfl⟩
    have hnotification : buildEpayNotification env order protocol key now =
        .ok (notificationOf order protocol money now first) :=
      bind_ok.mpr ⟨money, hmoney, bind_ok.mpr ⟨first, hfirst, rfl⟩⟩
    have hspread : spread existing (notificationOf order protocol money now first) =
        existing ++ notificationOf order protocol money now first :=
      spread_eq_append (received_nodup (parsed_of_parse hexisting) hcheck)
    refine bind_ok.mpr ⟨_, (appendEpayParameters_ok env).mpr ⟨url, existing, hurl, hexisting, hcheck, rfl⟩, ?_⟩
    refine required_bind_ok.mpr ⟨url, hurl, bind_ok.mpr ⟨existing, hexisting, ?_⟩⟩
    refine bind_ok.mpr ⟨_, hnotification, bind_ok.mpr ⟨sign, ?_, ?_⟩⟩
    · rwa [hspread]
    · rw [setProperty_sign]
      exact (appendEpayParameters_ok env).mpr ⟨url, existing, hurl, hexisting, hcheck, rfl⟩

end Building

/-! ## The round trip -/

section RoundTrip

variable {M : Type} (env : Environment M)

/-- The receiver accepts the parameters: with the key of the sender under V1, with the public key that belongs
    to it under V2. -/
def Accepts (protocol : EpayProtocol) (key : EpayKey M) (received : EpayParameters) : Prop :=
  match protocol with
  | .epayV1 => ∃ text, key = .text text ∧ verifyEpayV1 env (signable received) text = .ok true
  | .epayV2 => ∀ publicKey privateObject publicObject, parseEpayRsaKey env key .privateKey = .ok privateObject →
      parseEpayRsaKey env publicKey .publicKey = .ok publicObject →
      (∀ message, env.verify publicObject message (env.sign privateObject message) = true) →
      verifyEpayV2 env (signable received) publicKey = .ok true

variable {existing : EpayParameters} {order : EpayNotificationOrder} {protocol : EpayProtocol} {money first sign : String}
  {key : EpayKey M} {now : Int}

/-- What is received is valid, under distinct names. -/
theorem parsed_received {content : String} (hexisting : Parsed existing) (hcheck : checkNames existing = .ok ())
    (hcontent : epaySigningContent (signable (notificationFields order protocol money now)) protocol = .ok content)
    (hsign : '&' ∉ sign.toList) : Parsed (existing ++ notificationOf order protocol money now sign) := by
  refine ⟨fun p hp => ?_, received_nodup hexisting hcheck⟩
  rcases List.mem_append.mp hp with hp | hp
  · exact hexisting.valid p hp
  rcases List.mem_append.mp hp with hp | hp
  · exact notificationFields_valid hcontent p hp
  · obtain rfl := List.mem_singleton.mp hp
    obtain ⟨hnamed, hcharacters, -⟩ := fieldNames_reserved "sign" (by decide)
    exact ⟨hnamed, List.all_eq_true.mp hcharacters, hsign⟩

/-- The signature itself is not signed. -/
theorem content_notificationOf {content : String} (hexisting : Parsed existing) (hcheck : checkNames existing = .ok ())
    (h : epaySigningContent (signable (existing ++ notificationOf order protocol money now first)) protocol =
      .ok content) :
    epaySigningContent (signable (existing ++ notificationOf order protocol money now sign)) protocol = .ok content := by
  have hunsigned : ∀ value, isSigned protocol ("sign", value) = false := fun value => rfl
  have hfilter : ∀ value, (existing ++ notificationOf order protocol money now value).filter (isSigned protocol) =
      (existing ++ notificationFields order protocol money now).filter (isSigned protocol) := by
    intro value
    unfold notificationOf
    rw [← List.append_assoc, List.filter_append, List.filter_cons_of_neg (by rw [hunsigned]; decide), List.filter_nil,
      List.append_nil]
  refine (content_congr (received_nodup hexisting hcheck) ?_).mp h
  rw [hfilter first, hfilter sign]

theorem property_notification {name value : String} (hexisting : Parsed existing)
    (hcheck : checkNames existing = .ok ()) (hmem : (name, value) ∈ notificationOf order protocol money now sign) :
    property name (existing ++ notificationOf order protocol money now sign) = some value :=
  (property_iff (received_nodup hexisting hcheck)).mpr (List.mem_append_right _ hmem)

theorem accepts_received (hexisting : Parsed existing) (hcheck : checkNames existing = .ok ())
    (hsign : signEpay env (signable (existing ++ notificationOf order protocol money now first)) protocol key =
      .ok sign) :
    Accepts env protocol key (existing ++ notificationOf order protocol money now sign) := by
  have hcontent : ∀ content,
      epaySigningContent (signable (existing ++ notificationOf order protocol money now first)) protocol = .ok content →
      epaySigningContent (signable (existing ++ notificationOf order protocol money now sign)) protocol = .ok content :=
    fun content h => content_notificationOf hexisting hcheck h
  have hsignature : property "sign" (existing ++ notificationOf order protocol money now sign) = some sign := by
    refine property_notification hexisting hcheck (List.mem_append_right _ (List.mem_singleton_self _))
  have htype : property "sign_type" (existing ++ notificationOf order protocol money now sign) =
      some (signType protocol) := by
    obtain ⟨fields, hfields, -⟩ := notificationFields_eq order protocol money now
    refine property_notification hexisting hcheck (List.mem_append_left _ ?_)
    rw [hfields]
    exact List.mem_append_right _ (List.mem_singleton_self _)
  cases protocol with
  | epayV1 =>
    obtain ⟨text, htext, hsign⟩ := bind_ok.mp hsign
    cases key with
    | object key => exact nomatch htext
    | text key =>
      obtain rfl := Except.ok.inj htext
      exact ⟨key, rfl, verifyEpayV1_accepts hsign hcontent hsignature htype⟩
  | epayV2 =>
    intro publicKey privateObject publicObject hprivate hpublic hverify
    exact verifyEpayV2_accepts hsign hprivate hpublic hverify hcontent hsignature htype

/-- A signature holds no `&`, and there is one only of a content. -/
theorem signEpay_ok {ps : EpaySignable} (h : signEpay env ps protocol key = .ok sign) :
    '&' ∉ sign.toList ∧ ∃ content, epaySigningContent ps protocol = .ok content := by
  cases protocol with
  | epayV1 =>
    obtain ⟨text, -, h⟩ := bind_ok.mp h
    obtain ⟨-, h⟩ := refuse_bind_ok.mp h
    obtain ⟨content, hcontent, h⟩ := bind_ok.mp h
    refine ⟨?_, content, hcontent⟩
    rw [← pure_ok.mp h, String.toList_ofList]
    intro hmem
    obtain ⟨n, hn, heq⟩ := mem_hex hmem
    exact absurd heq.symm ((by decide : ∀ n < 16, Nat.digitChar n ≠ '&') n hn)
  | epayV2 =>
    obtain ⟨content, hcontent, h⟩ := bind_ok.mp h
    obtain ⟨object, -, h⟩ := bind_ok.mp h
    refine ⟨?_, content, hcontent⟩
    rw [← pure_ok.mp h, String.toList_ofList]
    exact fun hmem => absurd (Base64.mem_encode hmem) (by decide)

/-- The parameters of a parsed form have a content. -/
theorem content_of_parsed {ps : EpayParameters} (h : Parsed ps) :
    ∃ content, epaySigningContent (signable ps) protocol = .ok content :=
  ⟨_, epaySigningContent_ok.mpr ⟨fun p hp _ => h.valid p hp, rfl⟩⟩

/-- **Parsed parameters with the same content** agree on all that is signed. -/
theorem content_injective {ps qs : EpayParameters} (hps : Parsed ps) (hqs : Parsed qs)
    (h : epaySigningContent (signable ps) protocol = epaySigningContent (signable qs) protocol) {name value : String}
    (hsigned : isSigned protocol (name, value) = true) : property name ps = some value ↔ property name qs = some value := by
  obtain ⟨content, hcontent⟩ : ∃ content, epaySigningContent (signable ps) protocol = .ok content :=
    content_of_parsed hps
  have heq := signed_of_content_eq hcontent (h.symm.trans hcontent)
  have hmem : (name, value) ∈ ps ↔ (name, value) ∈ qs := by
    have hmem : ∀ rs : EpayParameters, (name, value) ∈ signedParameters protocol rs ↔ (name, value) ∈ rs :=
      fun rs => mem_signedParameters.trans (and_iff_left hsigned)
    rw [← hmem ps, ← hmem qs, heq]
  rw [property_iff hps.nodup, property_iff hqs.nodup, hmem]

/-- **The callback address.**  When an address is built, the receiver that parses its query gets the merchant's
    own parameters and the fields of the notification, each once, as long as the query is not longer than the
    parser reads; and the signature is accepted.  Signed parameters are determined by what is signed. -/
theorem callback_round_trip :
    (∀ (target : String) (order : EpayNotificationOrder) (protocol : EpayProtocol) (key : EpayKey M) (now : Int)
      (href : String), buildEpayCallbackUrl env target order protocol key now = .ok href →
      ∃ url existing money sign received, env.url target = some url ∧
        parseEpayParameters url.search .absent = .ok existing ∧ moneyFromCents order.moneyCents = .ok money ∧
        received = existing ++ (notificationFields order protocol money now ++ [("sign", sign)]) ∧
        (names received).Nodup ∧
        (parseEpayParameters (searchOf href) .absent = .ok received ↔ (searchOf href).utf8ByteSize ≤ maxFormBytes) ∧
        Accepts env protocol key received) ∧
    ∀ (protocol : EpayProtocol) (query₁ query₂ : String) (body₁ body₂ : FormBody) (ps qs : EpayParameters),
      parseEpayParameters query₁ body₁ = .ok ps → parseEpayParameters query₂ body₂ = .ok qs →
      epaySigningContent (signable ps) protocol = epaySigningContent (signable qs) protocol →
      ∀ name value, name ≠ "sign" → name ≠ "sign_type" → emptyFor protocol value = false →
        (property name ps = some value ↔ property name qs = some value) := by
  constructor
  · intro target order protocol key now href h
    obtain ⟨url, existing, money, first, sign, hurl, hexisting, hcheck, hmoney, hfirst, hsign, rfl⟩ :=
      (buildEpayCallbackUrl_ok env).mp h
    have hparsed := parsed_of_parse hexisting
    obtain ⟨-, content, hcontent⟩ := signEpay_ok env hfirst
    have hreceived := parsed_received hparsed hcheck hcontent (signEpay_ok env hsign).1
    have hne : notificationOf order protocol money now sign ≠ [] := by simp [notificationOf]
    refine ⟨url, existing, money, sign, existing ++ notificationOf order protocol money now sign, hurl, hexisting, hmoney,
      rfl, hreceived.nodup, ?_, accepts_received env hparsed hcheck hsign⟩
    rw [searchOf_href, search_append env.replaced hexisting hne]
    exact parse_written (by simp [hne]) hreceived
  · intro protocol query₁ query₂ body₁ body₂ ps qs hps hqs h name value hsign htype hvalue
    refine content_injective (parsed_of_parse hps) (parsed_of_parse hqs) h ?_
    unfold isSigned
    rw [decide_eq_false hsign, decide_eq_false htype, hvalue]
    rfl

end RoundTrip

/-! ## A shop -/

def shopUrl : Url where
  base := "https://shop.example/notify".toList
  query := some "a=1%2B2&b=".toList
  fragment := none
  base_plain := by decide +kernel
  query_plain := by
    intro q hq c hc
    obtain rfl := Option.some.inj hq
    have hall : ("a=1%2B2&b=".toList.all fun c => c.toNat < 128 && c ≠ '#') = true := by decide +kernel
    simpa using List.all_eq_true.mp hall c hc

/-- An environment that knows one address, and two digests. -/
def shop : Environment Unit where
  url target := if target = "https://shop.example/notify?a=1%2B2&b=" then some shopUrl else none
  replaced _ := ""
  md5 message :=
    if message.head? = some 97 then
      ⟨[0x09, 0x1d, 0xc9, 0xaa, 0x84, 0x60, 0xd4, 0x31, 0xf8, 0x75, 0x78, 0x1c, 0x28, 0xcf, 0xb5, 0x07], rfl⟩
    else ⟨[0x1b, 0xe8, 0x8e, 0x5f, 0xcb, 0x8d, 0x67, 0xbb, 0x49, 0x0d, 0x91, 0x4c, 0x72, 0xd5, 0x21, 0xce], rfl⟩
  createPrivateKey _ := none
  createPublicKey _ := none
  sign _ _ := [0]
  verify _ _ _ := true
  sign_ne_nil _ _ := List.cons_ne_nil _ _

def orderNamed (name : String) : EpayNotificationOrder where
  pid := "1001"
  tradeNo := "T1"
  outTradeNo := "O1"
  name := name
  moneyCents := 1050
  param := some "x=y"
  apiTradeNo := none
  buyer := none
  addTime := none
  endTime := none

theorem ok_of_toOption {α : Type} {x : Checked α} {a : α} (h : x.toOption = some a) : x = .ok a := by
  cases x with
  | error e => exact nomatch h
  | ok b => exact congrArg Except.ok (Option.some.inj h)

theorem callback_round_trip_shop :
    (∃ href received, buildEpayCallbackUrl shop "https://shop.example/notify?a=1%2B2&b=" (orderNamed "tea cup") .epayV1
        (.text "secret") 0 = .ok href ∧ parseEpayParameters (searchOf href) .absent = .ok received ∧
      Accepts shop .epayV1 (.text "secret") received) ∧
    (property "a" [("a", "1"), ("sign", "x")] = some "1" ↔ property "a" [("sign_type", "MD5"), ("a", "1")] = some "1") := by
  constructor
  · have hbuild : buildEpayCallbackUrl shop "https://shop.example/notify?a=1%2B2&b=" (orderNamed "tea cup") .epayV1
        (.text "secret") 0 = .ok "https://shop.example/notify?a=1%2B2&b=&pid=1001&trade_no=T1&out_trade_no=O1&type=alipay&trade_status=TRADE_SUCCESS&name=tea+cup&money=10.50&param=x%3Dy&sign_type=MD5&sign=091dc9aa8460d431f875781c28cfb507" :=
      ok_of_toOption (by decide +kernel)
    obtain ⟨url, existing, money, sign, received, -, -, -, -, -, hparse, haccepts⟩ :=
      (callback_round_trip shop).1 _ _ _ _ _ _ hbuild
    exact ⟨_, received, hbuild, hparse.mpr (by decide +kernel), haccepts⟩
  · exact (callback_round_trip shop).2 .epayV1 "?a=1&sign=x" "" .absent (.text "sign_type=MD5&a=1") _ _
      (ok_of_toOption (by decide +kernel)) (ok_of_toOption (by decide +kernel)) (by rfl) "a" "1" (by decide) (by decide)
      (by decide)

theorem size_replicate (n : Nat) (c : Char) : n ≤ (String.ofList (List.replicate n c)).utf8ByteSize := by
  have hlength := length_le_utf8ByteSize (List.replicate n c)
  rwa [List.length_replicate] at hlength

theorem signEpayV1_of_valid (ps : EpayParameters) {key : String} (hkey : key ≠ "")
    (hvalid : ∀ p ∈ ps, isSigned .epayV1 p = true → ValidField p) :
    ∃ sign, signEpay shop (signable ps) .epayV1 (.text key) = .ok sign :=
  ⟨_, bind_ok.mpr ⟨key, rfl, refuse_bind_ok.mpr
    ⟨decide_eq_false hkey, bind_ok.mpr ⟨_, epaySigningContent_ok.mpr ⟨hvalid, rfl⟩, rfl⟩⟩⟩⟩

theorem orderNamed_valid {name : String} (hname : '&' ∉ name.toList) :
    ∀ p ∈ notificationFields (orderNamed name) .epayV1 "10.50" 0, ValidField p := by
  have hvalues : ∀ p ∈ notificationFields (orderNamed name) .epayV1 "10.50" 0, '&' ∉ p.2.toList := by
    simp only [notificationFields, orderNamed, List.cons_append, List.nil_append, List.forall_mem_cons]
    exact ⟨by decide, by decide, by decide, by decide, by decide, hname, by decide, by decide, by decide, by simp⟩
  intro p hp
  have hmem : p.1 ∈ names (notificationOf (orderNamed name) .epayV1 "10.50" 0 "") :=
    List.mem_map_of_mem (List.mem_append_left _ hp)
  obtain ⟨hnamed, hcharacters, -⟩ := fieldNames_reserved p.1 ((names_notificationOf _ _ _ _ _).subset hmem)
  exact ⟨hnamed, List.all_eq_true.mp hcharacters, hvalues p hp⟩

/-- The name of an order is not bounded here: an address can be built that is longer than the parser reads. -/
theorem callback_beyond_limit :
    ∃ href, buildEpayCallbackUrl shop "https://shop.example/notify?a=1%2B2&b="
        (orderNamed (String.ofList (List.replicate 65536 'a'))) .epayV1 (.text "secret") 0 = .ok href ∧
      ¬∃ received, parseEpayParameters (searchOf href) .absent = .ok received := by
  have hname : '&' ∉ (String.ofList (List.replicate 65536 'a')).toList := by
    rw [String.toList_ofList]
    exact fun hmem => absurd (List.eq_of_mem_replicate hmem) (by decide)
  have hsize := size_replicate 65536 'a'
  generalize String.ofList (List.replicate 65536 'a') = name at hname hsize ⊢
  have hurl : shop.url "https://shop.example/notify?a=1%2B2&b=" = some shopUrl := by
    unfold shop
    dsimp only
    rw [if_pos rfl]
  have hexisting : parseEpayParameters shopUrl.search .absent = .ok [("a", "1+2"), ("b", "")] :=
    ok_of_toOption (by decide +kernel)
  have hmoney : moneyFromCents 1050 = .ok "10.50" := ok_of_toOption (by decide +kernel)
  have hkey : "secret" ≠ "" := by decide
  have hvalid := orderNamed_valid hname
  obtain ⟨first, hfirst⟩ := signEpayV1_of_valid _ hkey fun p hp _ => hvalid p hp
  have hsigned : ∀ p ∈ [("a", "1+2"), ("b", "")] ++ notificationOf (orderNamed name) .epayV1 "10.50" 0 first,
      isSigned .epayV1 p = true → ValidField p := by
    intro p hp hsigned
    rcases List.mem_append.mp hp with hp | hp
    · exact (parsed_of_parse hexisting).valid p hp
    rcases List.mem_append.mp hp with hp | hp
    · exact hvalid p hp
    · obtain rfl := List.mem_singleton.mp hp
      exact absurd hsigned Bool.false_ne_true
  obtain ⟨sign, hsign⟩ := signEpayV1_of_valid _ hkey hsigned
  refine ⟨_, (buildEpayCallbackUrl_ok shop).mpr ⟨shopUrl, _, "10.50", first, sign, hurl, hexisting, by rfl,
    hmoney, hfirst, hsign, rfl⟩, ?_⟩
  rintro ⟨received, hreceived⟩
  have hlimit := (parse_ok.mp hreceived).1
  rw [searchOf_href, search_append _ hexisting (by simp [notificationOf])] at hlimit
  have hmem : ("name", name) ∈ [("a", "1+2"), ("b", "")] ++ notificationOf (orderNamed name) .epayV1 "10.50" 0 sign := by
    simp [notificationOf, notificationFields, orderNamed]
  have hwritten : name.utf8ByteSize ≤ _ := Form.size_le_serialize hmem
  have hlength := length_le_utf8ByteSize ('?' ::
    Form.serialize ([("a", "1+2"), ("b", "")] ++ notificationOf (orderNamed name) .epayV1 "10.50" 0 sign))
  rw [List.length_cons] at hlength
  unfold maxFormBytes at hlimit
  omega

end PerPay.Epay
