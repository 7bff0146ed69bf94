/-
  **Links survive the rotation of keys** (`readOrRotateActiveCheckoutTokenKey`, `withCheckoutToken` of
  `database/order-store.ts`).

  The token of a link is not stored: it is derived again from the key of the version that its session names, and must then
  have the digest that is stored.  A rotation retires the current key and adds the next version, in the transaction of a
  creation; it neither drops a key nor touches its material, and so a link is the same before and behind it.

  1. **What a step keeps** (`TokenInv.step`): versions are unique, and every session has the key it was made with.
  2. **Keys** (`KeysKept`): they stay along every run, with their material.
  3. **The link** (`checkout_token_survives`): it can be shown, and it is the same one for ever.
-/
import PerPay.Orders.History

namespace PerPay.Orders

open Txn Table

variable {pf : Platform} {db db' db'' start : OrderDb}

/-- A key of the session: its version, and a material with the digest that is stored. -/
def CheckoutTokenKey.Opens (pf : Platform) (k : CheckoutTokenKey) (c : CheckoutSession) : Prop :=
  k.keyVersion = c.tokenKeyVersion ∧
    digestCheckoutToken pf (deriveCheckoutToken pf k.keyMaterial c.checkoutId) = c.tokenDigest

/-- `key_version` is the primary key, and every session has the key it was made with. -/
structure TokenInv (pf : Platform) (db : OrderDb) : Prop where
  versions : UniqueOn (·.keyVersion) db.tokenKeys
  opened : ∀ c ∈ db.checkouts, ∃ k ∈ db.tokenKeys, k.Opens pf c

/-- Keys stay, with their version and their material. -/
def KeysKept (db db' : OrderDb) : Prop :=
  ∀ k ∈ db.tokenKeys, ∃ k' ∈ db'.tokenKeys, k'.keyVersion = k.keyVersion ∧ k'.keyMaterial = k.keyMaterial

theorem KeysKept.refl (db : OrderDb) : KeysKept db db := fun k hk => ⟨k, hk, rfl, rfl⟩

theorem KeysKept.trans (h : KeysKept db db') (h' : KeysKept db' db'') : KeysKept db db'' := by
  intro k hk
  obtain ⟨k', hk', hversion, hmaterial⟩ := h k hk
  obtain ⟨k'', hk'', hversion', hmaterial'⟩ := h' k' hk'
  exact ⟨k'', hk'', hversion'.trans hversion, hmaterial'.trans hmaterial⟩

/-! ## One step -/

theorem KeysKept.step (hs : OrderStep pf db db') : KeysKept db db' := by
  cases hs with
  | clock now hle hsafe => exact .refl db
  | ends order status hends =>
    rw [hends.result]
    exact .refl db
  | inserted input rnd profile amount generation cooldown key hrows => exact hrows.keysKept
  | configured configuration hext => exact .refl db

/-- A key opens the same sessions as the row that it has become. -/
theorem KeysKept.opens (h : KeysKept db db') {c : CheckoutSession} {k : CheckoutTokenKey} (hk : k ∈ db.tokenKeys)
    (hopens : k.Opens pf c) : ∃ k' ∈ db'.tokenKeys, k'.Opens pf c ∧ k'.keyMaterial = k.keyMaterial := by
  obtain ⟨k', hk', hversion, hmaterial⟩ := h k hk
  refine ⟨k', hk', ⟨hversion.trans hopens.1, ?_⟩, hmaterial⟩
  rw [hmaterial]
  exact hopens.2

theorem TokenInv.inserted {input : CreateStoredOrderInput} {rnd : CreateRandomness} {profile : CollectionProfile}
    {amount generation cooldown now : Nat} {key : CheckoutTokenKey} (h : TokenInv pf db)
    (hrows : OrderInserted pf input rnd profile amount generation cooldown now key db db') : TokenInv pf db' where
  versions := hrows.keyVersions h.versions
  opened c hc := by
    rw [hrows.checkouts] at hc
    rcases List.mem_append.mp hc with hc | hc
    · obtain ⟨k, hk, hopens⟩ := h.opened c hc
      obtain ⟨k', hk', hopens', -⟩ := KeysKept.opens hrows.keysKept hk hopens
      exact ⟨k', hk', hopens'⟩
    · rw [List.mem_singleton.mp hc]
      exact ⟨key, hrows.keyMem, rfl, rfl⟩

theorem TokenInv.step (h : TokenInv pf db) (hs : OrderStep pf db db') : TokenInv pf db' := by
  cases hs with
  | clock now hle hsafe => exact ⟨h.versions, h.opened⟩
  | ends order status hends =>
    rw [hends.result]
    exact ⟨h.versions, h.opened⟩
  | inserted input rnd profile amount generation cooldown key hrows => exact h.inserted hrows
  | configured configuration hext => exact ⟨h.versions, h.opened⟩

/-! ## Runs -/

theorem tokens_of_steps (h : TokenInv pf db) (hs : Relation.ReflTransGen (OrderStep pf) db db') :
    TokenInv pf db' ∧ KeysKept db db' := by
  induction hs with
  | refl => exact ⟨h, .refl db⟩
  | tail _ hlast ih => exact ⟨ih.1.step hlast, ih.2.trans (.step hlast)⟩

/-- **A token is derived again**, from the only key of its version. -/
theorem TokenInv.withCheckoutToken (h : TokenInv pf db) {k : CheckoutTokenKey} (hk : k ∈ db.tokenKeys) {a : Aggregate}
    (hopens : k.Opens pf a.checkout) :
    Orders.withCheckoutToken pf a db = .ok (⟨a, deriveCheckoutToken pf k.keyMaterial a.checkout.checkoutId⟩, db) := by
  have hfound : db.tokenKeys.find? (fun x => x.keyVersion = a.checkout.tokenKeyVersion) = some k :=
    find?_eq_of_only hk (decide_eq_true hopens.1) fun x hx hp =>
      h.versions.eq hx hk ((of_decide_eq_true hp).trans hopens.1.symm)
  unfold Orders.withCheckoutToken
  simp only [readWith_bind_ok, orFail_bind_ok, require_bind_ok, pure_ok, and_true]
  exact ⟨k, hfound, hopens.2, rfl⟩

/-- **Links survive the rotation of keys.**  In a run from a store without orders, whose keys have a version each, the token
    of every session can be derived, with the digest that is stored; and whatever is called afterwards, it is the same. -/
theorem checkout_token_survives (pf : Platform) (h0 : OrderDb.Empty start)
    (hversions : UniqueOn (·.keyVersion) start.tokenKeys) {ops : List OrderOp} (hp : Runs.Path (orderStore pf) start ops db)
    {a : Aggregate} (hc : a.checkout ∈ db.checkouts) :
    ∃ stored, withCheckoutToken pf a db = .ok (stored, db) ∧
      digestCheckoutToken pf stored.checkoutToken = a.checkout.tokenDigest ∧
      ∀ (later : List OrderOp) (db' : OrderDb), Runs.Path (orderStore pf) db later db' →
        withCheckoutToken pf a db' = .ok (stored, db') := by
  have hstart : TokenInv pf start := ⟨hversions, by rw [h0.checkouts]; exact List.forall_mem_nil _⟩
  obtain ⟨hinv, -⟩ := tokens_of_steps hstart ((OrderStep.kept pf start).path hp .refl)
  obtain ⟨k, hk, hopens⟩ := hinv.opened a.checkout hc
  refine ⟨_, hinv.withCheckoutToken hk hopens, hopens.2, fun later db' hlater => ?_⟩
  obtain ⟨hinv', hkept⟩ := tokens_of_steps hinv ((OrderStep.kept pf db).path hlater .refl)
  obtain ⟨k', hk', hopens', hmaterial⟩ := hkept.opens hk hopens
  rw [← hmaterial]
  exact hinv'.withCheckoutToken hk' hopens'

theorem checkout_token_survives_reuse :
    ∃ a : Aggregate, a.checkout ∈ createdOnce.checkouts ∧
      ∃ stored, withCheckoutToken samplePlatform a createdOnce = .ok (stored, createdOnce) ∧
        digestCheckoutToken samplePlatform stored.checkoutToken = a.checkout.tokenDigest ∧
        ∀ (later : List OrderOp) (db' : OrderDb), Runs.Path (orderStore samplePlatform) createdOnce later db' →
          withCheckoutToken samplePlatform a db' = .ok (stored, db') := by
  have hcheckouts : createdOnce.checkouts ≠ [] := by decide +kernel
  have horders : createdOnce.orders ≠ [] := by decide +kernel
  obtain ⟨c, hc⟩ := List.exists_mem_of_ne_nil _ hcheckouts
  obtain ⟨o, -⟩ := List.exists_mem_of_ne_nil _ horders
  have hversions : UniqueOn (·.keyVersion) sampleStore.tokenKeys := List.nodup_singleton 1
  have hempty : OrderDb.Empty sampleStore := ⟨rfl, rfl, rfl, rfl, rfl, rfl⟩
  refine ⟨⟨o, c, sampleProfile, none⟩, hc, ?_⟩
  exact checkout_token_survives samplePlatform hempty hversions (path_runOps samplePlatform sampleStore _) hc

end PerPay.Orders
