/-
  **The source a rate limit counts by** (`infrastructure/network/rate-limit-source.ts`).

  Every IPv6 address of one /64 shares a budget, and an IPv4 address keeps the budget it has when it
  arrives mapped into IPv6.  The key is computed by a hand-written expander of IPv6 texts, which reads
  more than the platform's test accepts; on the texts of addresses it gives their groups
  (`parseIpv6Groups_spelling`), so the key is a function of the address and not of its spelling.
-/
import PerPay.Lib.IpText

namespace PerPay.Network

open IpText Joined Json

/-! ## Source -/

section Source

variable (other : List Char → Option Int)

/-- `Number(text)`, when it is an integer; `other` is its value on texts that are not plain digits. -/
def numberOf (text : List Char) : Option Int :=
  if text ≠ [] ∧ text.all Char.isDigit then some (Nat.ofDigitChars 10 text 0) else other text

/-- Not a safe integer, or outside `0…255`. -/
def octetInvalid (octet : Option Int) : Bool := octet.all fun n => n < 0 || 255 < n

/-- One part of a half: a dotted tail of two groups, or a group of one to four hexadecimal digits. -/
def parsePart (part : List Char) : Option (List Nat) :=
  if '.' ∈ part then
    let octets := (part.splitOn '.').map (numberOf other)
    if octets.length ≠ 4 || octets.any octetInvalid then none
    else
      let at_ (i : Nat) : Nat := ((octets.getD i none).getD 0).toNat
      some [at_ 0 <<< 8 ||| at_ 1, at_ 2 <<< 8 ||| at_ 3]
  else if isHextet part then some [hexNumber part]
  else none

def parseIpv6Half (value : List Char) : Option (List Nat) :=
  if value = [] then some [] else ((value.splitOn ':').mapM (parsePart other)).map List.flatten

def parseIpv6Groups (address : List Char) : Option (List Nat) :=
  let halves := splitPair ':' address
  if 2 < halves.length then none
  else do
    let left ← parseIpv6Half other (halves.getD 0 [])
    let right ← parseIpv6Half other (halves.getD 1 [])
    if halves.length = 1 then (if left.length = 8 then some left else none)
    else
      let missing : Int := 8 - left.length - right.length
      if missing < 1 then none else some (left ++ List.replicate missing.toNat 0 ++ right)

/-- The key of an address with these groups: dotted when it is IPv4-mapped, and its /64 otherwise. -/
def groupsKey (groups : List Nat) : List Char :=
  if (groups.take 5).all (· = 0) && groups.getD 5 0 = 0xffff then
    dotted [groups.getD 6 0 >>> 8, groups.getD 6 0 &&& 0xff, groups.getD 7 0 >>> 8, groups.getD 7 0 &&& 0xff]
  else List.intercalate [':'] ((groups.take 4).map hexText) ++ "::/64".toList

/-- `aggregateRateLimitSource` — shared /64 budgets. -/
def aggregateRateLimitSource (sourceAddress : String) : String :=
  if isIP sourceAddress.toList ≠ 6 then sourceAddress
  else
    match parseIpv6Groups other sourceAddress.toList with
    | none => sourceAddress
    | some groups => String.ofList (groupsKey groups)

end Source

variable {other : List Char → Option Int}

/-! ## The expander reads every spelling -/

theorem numberOf_natText (n : Nat) : numberOf other (natText n) = some (n : Int) := by
  unfold numberOf
  rw [if_pos ⟨Nat.toDigits_ne_nil, List.all_eq_true.mpr natText_isDigit⟩]
  exact congrArg some (congrArg Int.ofNat Nat.ofDigitChars_ten_toDigits)

/-- The high and the low byte of a group. -/
theorem shiftLeft_or {high low : Nat} (hlow : low < 256) : high <<< 8 ||| low = high * 256 + low := by
  rw [Nat.shiftLeft_eq, Nat.mul_comm, show (2 : Nat) ^ 8 * high ||| low = 2 ^ 8 * high + low from
    (Nat.two_pow_add_eq_or_of_lt hlow high).symm]

theorem parsePart_dotted {a b c d : Nat} (ha : a < 256) (hb : b < 256) (hc : c < 256) (hd : d < 256) :
    parsePart other (dotted [a, b, c, d]) = some [a * 256 + b, c * 256 + d] := by
  have hoctets : ((dotted [a, b, c, d]).splitOn '.').map (numberOf other) =
      [some (a : Int), some (b : Int), some (c : Int), some (d : Int)] := by
    rw [splitOn_dotted (List.cons_ne_nil _ _), List.map_map]
    show [_, _, _, _] = [_, _, _, _]
    simp only [Function.comp, numberOf_natText]
  have hvalid : ∀ {n : Nat}, n < 256 → octetInvalid (some (n : Int)) = false := by
    intro n hn
    show (decide ((n : Int) < 0) || decide (255 < (n : Int))) = false
    rw [decide_eq_false (by omega), decide_eq_false (by omega)]
    rfl
  unfold parsePart
  rw [if_pos (dot_mem_dotted a b [c, d])]
  dsimp only
  rw [hoctets]
  have hall : [some (a : Int), some (b : Int), some (c : Int), some (d : Int)].any octetInvalid = false := by
    simp only [List.any_cons, List.any_nil, hvalid ha, hvalid hb, hvalid hc, hvalid hd, Bool.or_self]
  rw [hall]
  show some [a <<< 8 ||| b, c <<< 8 ||| d] = _
  rw [shiftLeft_or hb, shiftLeft_or hd]

theorem parsePart_hextet {field : List Char} (h : isHextet field = true) : parsePart other field = some [hexNumber field] := by
  unfold parsePart
  rw [if_neg (isHextet_not_mem h rfl), if_pos h]

/-- The parts of a half give the groups its fields stand for. -/
theorem mapM_parsePart {fields : List (List Char)} {groups : List Nat} (h : Fields fields groups) :
    (fields.mapM (parsePart other)).map List.flatten = some groups := by
  induction h with
  | nil => rfl
  | @hextet field fields groups hfield _ ih =>
    obtain ⟨parts, hparts, rfl⟩ := Option.map_eq_some_iff.mp ih
    rw [List.mapM_cons, parsePart_hextet hfield, hparts]
    rfl
  | dotted ha hb hc hd =>
    rw [List.mapM_cons, parsePart_dotted ha hb hc hd]
    rfl

theorem parseIpv6Half_fields {fields : List (List Char)} {groups : List Nat} (h : Fields fields groups) :
    parseIpv6Half other (List.intercalate [':'] fields) = some groups := by
  unfold parseIpv6Half
  split
  · next hnil =>
    cases fields with
    | nil =>
      cases h
      rfl
    | cons field fields =>
      exact absurd hnil (intercalate_ne_nil (List.cons_ne_nil _ _) fun x hx => (h.plain x hx).1)
  · next hne =>
    have hfields : fields ≠ [] := by
      rintro rfl
      exact hne rfl
    rw [List.splitOn_intercalate ':' (fun field hfield => (h.plain field hfield).2) hfields]
    exact mapM_parsePart h

/-- **The expander gives the groups of every spelling.** -/
theorem parseIpv6Groups_spelling {text : List Char} {groups : List Nat} (h : Spelling text groups) :
    parseIpv6Groups other text = some groups := by
  have hpieces : ∀ {fields groups}, Fields fields groups →
      splitPair ':' (List.intercalate [':'] fields) = [List.intercalate [':'] fields] := by
    intro fields groups hfields
    have hcut := @cutPair_intercalate _ _ ':' [] _ hfields.plain
    rw [List.append_nil] at hcut
    rw [splitPair_eq, hcut]
    show [_ ++ []] = _
    rw [List.append_nil]
  have hempty : parseIpv6Half other [] = some [] := rfl
  cases h with
  | @whole fields groups hfields hlength =>
    unfold parseIpv6Groups
    dsimp only
    rw [hpieces hfields, if_neg (by simp)]
    show (parseIpv6Half other (List.intercalate [':'] fields)).bind _ = _
    rw [parseIpv6Half_fields hfields, Option.bind_some]
    show (parseIpv6Half other []).bind _ = _
    rw [hempty, Option.bind_some, if_pos (by rfl), if_pos hlength]
  | @compressed left right l r hleft hplain hright hshort =>
    have hhalves : splitPair ':' (List.intercalate [':'] left ++ ':' :: ':' :: List.intercalate [':'] right) =
        [List.intercalate [':'] left, List.intercalate [':'] right] := by
      have hcut := @cutPair_intercalate _ _ ':' (':' :: ':' :: List.intercalate [':'] right) _ hleft.plain
      rw [splitPair_eq, hcut, cutPair, if_pos ⟨rfl, rfl⟩, List.append_nil]
      show _ :: splitPair ':' (List.intercalate [':'] right) = _
      rw [hpieces hright]
    have hmissing : ¬(8 - (l.length : Int) - r.length < 1) := by omega
    have hcount : (8 - (l.length : Int) - r.length).toNat = 8 - l.length - r.length := by omega
    unfold parseIpv6Groups
    dsimp only
    rw [hhalves, if_neg (by simp)]
    show (parseIpv6Half other (List.intercalate [':'] left)).bind _ = _
    rw [parseIpv6Half_fields hleft, Option.bind_some]
    show (parseIpv6Half other (List.intercalate [':'] right)).bind _ = _
    rw [parseIpv6Half_fields hright, Option.bind_some, if_neg (by simp), if_neg hmissing, hcount]

/-! ## The key is a function of the address -/

/-- The key of a /64. -/
def networkText (network : List Nat) : List Char := List.intercalate [':'] (network.map hexText) ++ "::/64".toList

theorem groupsKey_mapped (octets : IPv4) : groupsKey (mappedGroups octets.octets) = dotted octets.octets := by
  obtain ⟨octets, hlength, hlt⟩ := octets
  match octets, hlength with
  | [a, b, c, d], _ =>
    have hb : b < 256 := hlt b (by simp)
    have hd : d < 256 := hlt d (by simp)
    have hbytes : ∀ {high low : Nat}, low < 256 → (high * 256 + low) >>> 8 = high ∧ (high * 256 + low) &&& 0xff = low := by
      intro high low hlow
      rw [Nat.shiftRight_eq_div_pow, show (0xff : Nat) = 2 ^ 8 - 1 from rfl, Nat.and_two_pow_sub_one_eq_mod]
      omega
    show dotted [(a * 256 + b) >>> 8, (a * 256 + b) &&& 0xff, (c * 256 + d) >>> 8, (c * 256 + d) &&& 0xff] = _
    rw [(hbytes hb).1, (hbytes hb).2, (hbytes hd).1, (hbytes hd).2]

theorem groupsKey_network {address : IPv6} (h : ¬address.IsMapped) : groupsKey address.groups = networkText address.network := by
  obtain ⟨groups, hlength, hlt⟩ := address
  match groups, hlength with
  | [g0, g1, g2, g3, g4, g5, g6, g7], _ =>
    unfold groupsKey
    rw [if_neg]
    · rfl
    · intro hkey
      refine h ?_
      show [g0, g1, g2, g3, g4, g5] = _
      simpa [and_assoc] using hkey

/-- The key of an address. -/
def addressKey : Address → List Char
  | .v4 address => dotted address.octets
  | .v6 address => groupsKey address.groups

/-- **Every spelling of an address has its key.** -/
theorem aggregateRateLimitSource_eq {source : String} {address : Address} (hzone : '%' ∉ source.toList)
    (h : Denotes source.toList address) : aggregateRateLimitSource other source = String.ofList (addressKey address) := by
  obtain ⟨h6, -⟩ := isIP_iff hzone
  unfold aggregateRateLimitSource
  cases address with
  | v4 octets =>
    have hnot : isIP source.toList ≠ 6 := fun heq => by
      obtain ⟨groups, hgroups⟩ := h6.mp heq
      exact nomatch h.unique hgroups
    have htext : source.toList = dotted octets.octets := h
    rw [if_pos hnot]
    show source = String.ofList (dotted octets.octets)
    rw [← htext, String.ofList_toList]
  | v6 groups =>
    rw [if_neg (not_not.mpr (h6.mpr ⟨groups, h⟩)), parseIpv6Groups_spelling h]
    rfl

/-- Both are IPv6 addresses of one /64 and not mapped, or both are one IPv4 address. -/
def SameBudget (x y : Address) : Prop :=
  (∃ p q : IPv6, x = .v6 p ∧ y = .v6 q ∧ ¬p.IsMapped ∧ ¬q.IsMapped ∧ p.network = q.network) ∨
    ∃ octets : IPv4, x.IsIPv4 octets ∧ y.IsIPv4 octets

theorem addressKey_ipv4 {address : Address} {octets : IPv4} (h : address.IsIPv4 octets) :
    addressKey address = dotted octets.octets := by
  cases address with
  | v4 plain => exact congrArg (fun p => dotted p.octets) h
  | v6 mapped =>
    have hgroups : mapped.groups = mappedGroups octets.octets := h
    show groupsKey mapped.groups = _
    rw [hgroups, groupsKey_mapped]

/-- An address is an IPv4 address, plain or mapped, or an IPv6 address with the key of its /64. -/
theorem address_cases (address : Address) : (∃ octets, address.IsIPv4 octets) ∨
    ∃ p : IPv6, address = .v6 p ∧ ¬p.IsMapped ∧ addressKey address = networkText p.network := by
  cases address with
  | v4 octets => exact .inl ⟨octets, rfl⟩
  | v6 p =>
    by_cases hmapped : p.IsMapped
    · exact .inl hmapped.groups_eq
    · exact .inr ⟨p, rfl, hmapped, groupsKey_network hmapped⟩

theorem networkText_injective {xs ys : List Nat} (hxs : xs ≠ []) (hys : ys ≠ []) (h : networkText xs = networkText ys) :
    xs = ys := by
  have hplain : ∀ {zs : List Nat}, ∀ field ∈ zs.map hexText, ':' ∉ field := by
    intro zs field hfield hcolon
    obtain ⟨n, -, rfl⟩ := List.mem_map.mp hfield
    exact absurd (hexText_digits n ':' hcolon) (by decide)
  have hsplit := congrArg (List.splitOn ':') (List.append_cancel_right h)
  rw [List.splitOn_intercalate ':' hplain (by simpa using hxs), List.splitOn_intercalate ':' hplain (by simpa using hys)] at hsplit
  exact List.map_injective_iff.mpr hexText_injective hsplit

/-- A dotted key has no colon, and the key of a /64 has. -/
theorem dotted_ne_networkText (octets network : List Nat) : dotted octets ≠ networkText network := by
  intro h
  have hcolon : ':' ∈ dotted octets := by
    rw [h, networkText]
    exact List.mem_append_right _ (by decide)
  rcases mem_dotted hcolon with hcolon | hcolon <;> exact absurd hcolon (by decide)

theorem addressKey_eq_iff {x y : Address} : addressKey x = addressKey y ↔ SameBudget x y := by
  constructor
  · intro h
    rcases address_cases x with ⟨s, hs⟩ | ⟨p, rfl, hp, hpkey⟩
    · rcases address_cases y with ⟨t, ht⟩ | ⟨q, rfl, hq, hqkey⟩
      · rw [addressKey_ipv4 hs, addressKey_ipv4 ht] at h
        have hst : s = t := by
          have hunique : Address.v4 s = Address.v4 t :=
            Denotes.unique (show Denotes (dotted s.octets) (.v4 s) from rfl) (show Denotes _ (.v4 t) from h)
          exact Address.v4.inj hunique
        exact .inr ⟨s, hs, hst ▸ ht⟩
      · rw [addressKey_ipv4 hs, hqkey] at h
        exact absurd h (dotted_ne_networkText _ _)
    · rcases address_cases y with ⟨t, ht⟩ | ⟨q, rfl, hq, hqkey⟩
      · rw [addressKey_ipv4 ht, hpkey] at h
        exact absurd h.symm (dotted_ne_networkText _ _)
      · rw [hpkey, hqkey] at h
        exact .inl ⟨p, q, rfl, rfl, hp, hq, networkText_injective p.network_ne_nil q.network_ne_nil h⟩
  · rintro (⟨p, q, rfl, rfl, hp, hq, hnetwork⟩ | ⟨octets, hx, hy⟩)
    · show groupsKey p.groups = groupsKey q.groups
      rw [groupsKey_network hp, groupsKey_network hq, hnetwork]
    · rw [addressKey_ipv4 hx, addressKey_ipv4 hy]

/-- **Equal keys, equal budgets.**  Two texts that the platform accepts as addresses, without a zone, each
    stand for exactly one address; and their keys are equal if and only if both are IPv6 addresses of one
    /64 and not mapped, or both are the same IPv4 address, plain or mapped. -/
theorem rate_limit_source {a b : String} (ha : isIP a.toList ≠ 0) (hb : isIP b.toList ≠ 0) (hza : '%' ∉ a.toList)
    (hzb : '%' ∉ b.toList) : ∃ x y : Address, (∀ z, Denotes a.toList z ↔ z = x) ∧ (∀ z, Denotes b.toList z ↔ z = y) ∧
      (aggregateRateLimitSource other a = aggregateRateLimitSource other b ↔ SameBudget x y) := by
  obtain ⟨x, hx⟩ := (isIP_iff hza).2.mp ha
  obtain ⟨y, hy⟩ := (isIP_iff hzb).2.mp hb
  refine ⟨x, y, fun z => ⟨fun hz => hz.unique hx, fun hz => hz ▸ hx⟩, fun z => ⟨fun hz => hz.unique hy, fun hz => hz ▸ hy⟩, ?_⟩
  rw [aggregateRateLimitSource_eq hza hx, aggregateRateLimitSource_eq hzb hy, String.ofList_inj, addressKey_eq_iff]

/-- The same mapped address in two spellings. -/
theorem rate_limit_source_sample : isIP "::FFFF:192.0.2.1".toList = 6 ∧ isIP "0:0:0:0:0:ffff:c000:201".toList = 6 ∧
    ∃ x y : Address, (∀ z, Denotes "::FFFF:192.0.2.1".toList z ↔ z = x) ∧
      (∀ z, Denotes "0:0:0:0:0:ffff:c000:201".toList z ↔ z = y) ∧
      (aggregateRateLimitSource (fun _ => none) "::FFFF:192.0.2.1" =
        aggregateRateLimitSource (fun _ => none) "0:0:0:0:0:ffff:c000:201" ↔ SameBudget x y) :=
  ⟨by decide +kernel, by decide +kernel,
    rate_limit_source (by decide +kernel) (by decide +kernel) (by decide) (by decide)⟩

example : aggregateRateLimitSource (fun _ => none) "::FFFF:192.0.2.1" = "192.0.2.1" := by decide +kernel

example : aggregateRateLimitSource (fun _ => none) "2001:DB8:0::192.0.2.1" = "2001:db8:0:0::/64" := by decide +kernel

end PerPay.Network
