/-
  **What a signature covers.**

  The signing content joins the entries of the signed parameters in the order of their keys.  A key holds
  neither `=` nor `&` and a value no `&`, so the content determines the signed parameters
  (`signed_of_content_eq`); and it depends on nothing else: parameters with the same signed ones have the
  same content (`content_congr`), whatever their `sign` is.
-/
import PerPay.Epay.Protocol

namespace PerPay.Epay

open Bytes Checks

variable {protocol : EpayProtocol}

/-! ## Fields -/

/-- What `validateField` lets through. -/
structure ValidField (p : String × String) : Prop where
  named : p.1 ≠ ""
  name : ∀ c ∈ p.1.toList, nameCharacter c = true
  value : '&' ∉ p.2.toList

theorem validateField_ok {p : String × String} {u : Unit} : validateField p.1 p.2 = .ok u ↔ ValidField p := by
  unfold validateField
  rw [refuse_ok, Bool.or_eq_false_iff, Bool.or_eq_false_iff, decide_eq_false_iff_not, Bool.not_eq_false',
    List.all_eq_true]
  constructor
  · rintro ⟨⟨hnamed, hname⟩, hvalue⟩
    exact ⟨hnamed, hname, fun hmem => Bool.false_ne_true (hvalue.symm.trans (List.contains_iff_mem.mpr hmem))⟩
  · rintro ⟨hnamed, hname, hvalue⟩
    exact ⟨⟨hnamed, hname⟩, Bool.eq_false_iff.mpr fun hmem => hvalue (List.contains_iff_mem.mp hmem)⟩

theorem ValidField.name_no_equals {p : String × String} (h : ValidField p) : '=' ∉ p.1.toList :=
  fun hmem => absurd (h.name '=' hmem) (by decide)

theorem ValidField.name_no_ampersand {p : String × String} (h : ValidField p) : '&' ∉ p.1.toList :=
  fun hmem => absurd (h.name '&' hmem) (by decide)

/-! ## Entries -/

/-- The signature covers the parameter. -/
def isSigned (protocol : EpayProtocol) (p : String × String) : Bool :=
  !(p.1 = "sign" || p.1 = "sign_type") && !emptyFor protocol p.2

def entryOf (p : String × String) : List Char := p.1.toList ++ '=' :: p.2.toList

theorem entryOf_ne_nil (p : String × String) : entryOf p ≠ [] := by
  unfold entryOf
  simp

theorem entryOf_no_ampersand {p : String × String} (h : ValidField p) : '&' ∉ entryOf p := by
  intro hmem
  rcases List.mem_append.mp hmem with hmem | hmem
  · exact h.name_no_ampersand hmem
  rcases List.mem_cons.mp hmem with hmem | hmem
  · exact absurd hmem (by decide)
  · exact h.value hmem

theorem entryOf_injective {p q : String × String} (hp : ValidField p) (hq : ValidField q) (h : entryOf p = entryOf q) :
    p = q := by
  have hcut := congrArg (Joined.cutAt '=') h
  unfold entryOf at hcut
  rw [Joined.cutAt_append hp.name_no_equals, Joined.cutAt_append hq.name_no_equals] at hcut
  obtain ⟨hkey, hvalue⟩ := Prod.mk.inj hcut
  exact Prod.ext (String.toList_inj.mp hkey) (String.toList_inj.mp (Option.some.inj hvalue))

theorem eq_of_entries {ps qs : EpayParameters} (hps : ∀ p ∈ ps, ValidField p) (hqs : ∀ q ∈ qs, ValidField q)
    (h : ps.map entryOf = qs.map entryOf) : ps = qs := by
  induction ps generalizing qs with
  | nil => exact (List.map_eq_nil_iff.mp h.symm).symm
  | cons p ps ih =>
    obtain ⟨q, qs, rfl, hentry, hrest⟩ := List.map_eq_cons_iff.mp h.symm
    obtain ⟨hp, hps⟩ := List.forall_mem_cons.mp hps
    obtain ⟨hq, hqs⟩ := List.forall_mem_cons.mp hqs
    rw [entryOf_injective hq hp hentry, ih hps hqs hrest.symm]

theorem signedEntry_text {p : String × String} {entry : Option (List Char)} :
    signedEntry protocol (p.1, .text p.2) = .ok entry ↔
      (isSigned protocol p = true → ValidField p) ∧
        (if isSigned protocol p then some (entryOf p) else none) = entry := by
  unfold signedEntry isSigned
  by_cases hsign : (p.1 = "sign" || p.1 = "sign_type") = true
  · simp only [hsign, if_true, Bool.not_true, Bool.false_and, Bool.false_eq_true, if_false, false_implies, true_and,
      Except.ok.injEq]
  · rw [if_neg hsign]
    simp only [Bool.not_eq_true] at hsign
    show (.ok (some p.2) >>= fun text => signedPair protocol p.1 text) = _ ↔ _
    have hbind : ((.ok (some p.2) : Checked (Option String)) >>= fun text => signedPair protocol p.1 text) =
        signedPair protocol p.1 (some p.2) := rfl
    rw [hbind, signedPair, hsign]
    by_cases hempty : emptyFor protocol p.2 = true
    · simp only [hempty, if_true, Bool.not_true, Bool.and_false, Bool.false_eq_true, if_false, false_implies, true_and,
        Except.ok.injEq]
    · rw [if_neg hempty]
      simp only [Bool.not_eq_true] at hempty
      simp only [hempty, Bool.not_false, Bool.and_self, if_true, true_implies]
      rw [bind_ok]
      simp only [validateField_ok, pure_ok]
      constructor
      · rintro ⟨_, hvalid, rfl⟩
        exact ⟨hvalid, rfl⟩
      · rintro ⟨hvalid, rfl⟩
        exact ⟨(), hvalid, rfl⟩

/-! ## Keys in order -/

theorem keyLE_iff {a b : String} : keyLE a b = true ↔ (utf8 a).map UInt8.toNat ≤ (utf8 b).map UInt8.toNat :=
  decide_eq_true_iff

theorem keyLE_antisymm {a b : String} (hab : keyLE a b = true) (hba : keyLE b a = true) : a = b := by
  have hbytes := le_antisymm (keyLE_iff.mp hab) (keyLE_iff.mp hba)
  exact utf8_injective (List.map_injective_iff.mpr (fun _ _ h => UInt8.toNat_inj.mp h) hbytes)

instance {α : Type} : Std.Total fun p q : String × α => keyLE p.1 q.1 = true where
  total p q := by
    rw [keyLE_iff, keyLE_iff]
    exact le_total _ _

instance {α : Type} : IsTrans (String × α) fun p q => keyLE p.1 q.1 = true where
  trans p q r := by
    rw [keyLE_iff, keyLE_iff, keyLE_iff]
    exact le_trans

theorem sortKeys_perm {α : Type} (ps : List (String × α)) : (sortKeys ps).Perm ps := List.perm_insertionSort _ ps

theorem sortKeys_signable (ps : EpayParameters) : sortKeys (signable ps) = signable (sortKeys ps) :=
  (List.map_insertionSort _ _ (fun p : String × String => (p.1, Signable.text p.2)) ps fun _ _ _ _ => Iff.rfl).symm

/-- Of distinct keys there is one list in order. -/
theorem eq_of_sorted {ps qs : EpayParameters} (h : ps.Perm qs) (hkeys : (ps.map Prod.fst).Nodup)
    (hp : ps.Pairwise fun p q => keyLE p.1 q.1 = true) (hq : qs.Pairwise fun p q => keyLE p.1 q.1 = true) : ps = qs := by
  refine h.eq_of_pairwise (fun p q hpm hqm hpq hqp => ?_) hp hq
  exact List.inj_on_of_nodup_map hkeys hpm (h.mem_iff.mpr hqm) (keyLE_antisymm hpq hqp)

/-! ## Contents -/

/-- The signed parameters in the order of their keys. -/
def signedParameters (protocol : EpayProtocol) (ps : EpayParameters) : EpayParameters :=
  (sortKeys ps).filter (isSigned protocol)

theorem mem_signedParameters {ps : EpayParameters} {p : String × String} :
    p ∈ signedParameters protocol ps ↔ p ∈ ps ∧ isSigned protocol p = true := by
  unfold signedParameters
  rw [List.mem_filter, (sortKeys_perm ps).mem_iff]

theorem signedParameters_congr {ps qs : EpayParameters} (hkeys : (ps.map Prod.fst).Nodup)
    (h : (ps.filter (isSigned protocol)).Perm (qs.filter (isSigned protocol))) :
    signedParameters protocol ps = signedParameters protocol qs := by
  have hp := (sortKeys_perm ps).filter (isSigned protocol)
  have hq := (sortKeys_perm qs).filter (isSigned protocol)
  refine eq_of_sorted ((hp.trans h).trans hq.symm) ?_ ?_ ?_
  · have hsub := ((sortKeys ps).filter_sublist (p := isSigned protocol)).map Prod.fst
    exact hsub.nodup (((sortKeys_perm ps).map Prod.fst).nodup_iff.mpr hkeys)
  · exact (List.pairwise_insertionSort _ ps).filter _
  · exact (List.pairwise_insertionSort _ qs).filter _

theorem filterMap_entries (ps : EpayParameters) :
    (ps.map fun p => if isSigned protocol p then some (entryOf p) else none).filterMap id =
      (ps.filter (isSigned protocol)).map entryOf := by
  induction ps with
  | nil => rfl
  | cons p ps ih =>
    rw [List.map_cons]
    by_cases hp : isSigned protocol p = true
    · rw [if_pos hp, List.filter_cons_of_pos hp, List.map_cons, ← ih]
      rfl
    · rw [if_neg hp, List.filter_cons_of_neg hp, ← ih]
      rfl

/-- **The signing content** exists when the signed parameters are valid, and joins their entries. -/
theorem epaySigningContent_ok {ps : EpayParameters} {content : String} :
    epaySigningContent (signable ps) protocol = .ok content ↔
      (∀ p ∈ ps, isSigned protocol p = true → ValidField p) ∧
        String.ofList (['&'].intercalate ((signedParameters protocol ps).map entryOf)) = content := by
  have hentries : ∀ (qs : EpayParameters) (entries : List (Option (List Char))),
      List.Forall₂ (fun p entry => signedEntry protocol p = .ok entry) (signable qs) entries ↔
        (∀ p ∈ qs, isSigned protocol p = true → ValidField p) ∧
          (qs.map fun p => if isSigned protocol p then some (entryOf p) else none) = entries := by
    intro qs
    induction qs with
    | nil =>
      intro entries
      show List.Forall₂ _ [] entries ↔ _
      rw [List.forall₂_nil_left_iff]
      constructor
      · rintro rfl
        exact ⟨by simp, rfl⟩
      · rintro ⟨-, rfl⟩
        rfl
    | cons q qs ih =>
      intro entries
      show List.Forall₂ _ ((q.1, Signable.text q.2) :: signable qs) entries ↔ _
      rw [List.forall₂_cons_left_iff]
      simp only [ih, signedEntry_text, List.forall_mem_cons, List.map_cons]
      constructor
      · rintro ⟨_, _, ⟨hq, rfl⟩, ⟨hqs, rfl⟩, rfl⟩
        exact ⟨⟨hq, hqs⟩, rfl⟩
      · rintro ⟨⟨hq, hqs⟩, rfl⟩
        exact ⟨_, _, ⟨hq, rfl⟩, ⟨hqs, rfl⟩, rfl⟩
  unfold epaySigningContent
  rw [sortKeys_signable, mapM_bind_ok]
  simp only [hentries, pure_ok]
  have hmem : (∀ p ∈ sortKeys ps, isSigned protocol p = true → ValidField p) ↔
      ∀ p ∈ ps, isSigned protocol p = true → ValidField p :=
    forall_congr' fun p => by rw [(sortKeys_perm ps).mem_iff]
  constructor
  · rintro ⟨_, ⟨hvalid, rfl⟩, hcontent⟩
    rw [filterMap_entries] at hcontent
    exact ⟨hmem.mp hvalid, hcontent⟩
  · rintro ⟨hvalid, hcontent⟩
    refine ⟨_, ⟨hmem.mpr hvalid, rfl⟩, ?_⟩
    rw [filterMap_entries]
    exact hcontent

/-- **Nothing but the signed parameters counts**, in whatever order they come. -/
theorem content_congr {ps qs : EpayParameters} (hkeys : (ps.map Prod.fst).Nodup)
    (h : (ps.filter (isSigned protocol)).Perm (qs.filter (isSigned protocol))) {content : String} :
    epaySigningContent (signable ps) protocol = .ok content ↔ epaySigningContent (signable qs) protocol = .ok content := by
  rw [epaySigningContent_ok, epaySigningContent_ok, signedParameters_congr hkeys h]
  refine and_congr_left fun _ => forall_congr' fun p => ?_
  have hmem := h.mem_iff (a := p)
  rw [List.mem_filter, List.mem_filter] at hmem
  constructor
  · exact fun hvalid hq hsigned => hvalid (hmem.mpr ⟨hq, hsigned⟩).1 hsigned
  · exact fun hvalid hp hsigned => hvalid (hmem.mp ⟨hp, hsigned⟩).1 hsigned

/-- **The content determines the signed parameters.** -/
theorem signed_of_content_eq {ps qs : EpayParameters} {content : String}
    (hp : epaySigningContent (signable ps) protocol = .ok content)
    (hq : epaySigningContent (signable qs) protocol = .ok content) :
    signedParameters protocol ps = signedParameters protocol qs := by
  obtain ⟨hpValid, hpContent⟩ := epaySigningContent_ok.mp hp
  obtain ⟨hqValid, hqContent⟩ := epaySigningContent_ok.mp hq
  have hvalid : ∀ {rs : EpayParameters}, (∀ p ∈ rs, isSigned protocol p = true → ValidField p) →
      ∀ p ∈ signedParameters protocol rs, ValidField p := by
    intro rs hrs p hmem
    obtain ⟨hmem, hsigned⟩ := mem_signedParameters.mp hmem
    exact hrs p hmem hsigned
  have hfields : ∀ {rs : EpayParameters}, (∀ p ∈ signedParameters protocol rs, ValidField p) →
      ∀ entry ∈ (signedParameters protocol rs).map entryOf, entry ≠ [] ∧ '&' ∉ entry := by
    intro rs hrs entry hentry
    obtain ⟨p, hmem, rfl⟩ := List.mem_map.mp hentry
    exact ⟨entryOf_ne_nil p, entryOf_no_ampersand (hrs p hmem)⟩
  have hjoined := String.ofList_injective (hpContent.trans hqContent.symm)
  have hentries := Joined.intercalate_injective '&' (hfields (hvalid hpValid)) (hfields (hvalid hqValid)) hjoined
  exact eq_of_entries (hvalid hpValid) (hvalid hqValid) hentries

end PerPay.Epay
