/-
  **Catalogs of representatives** — of every key among some rows, one row that no other row of the key precedes.

  A catalog is a map from keys to rows, kept while rows arrive, expire and are deleted.  A reading of the new rows brings
  one greatest row of each of their keys, and `remember` puts it into the map unless the row there is later.  The point
  is that a catalog of old rows becomes a catalog of all rows (`Catalog.append`), stays one when rows below
  a bound expire (`Catalog.expire`), and stays one when any rows but its own are deleted (`Catalog.restrict`): nothing but the
  representatives has to be looked at again.
-/
import Mathlib.Data.List.Basic
import Mathlib.Data.List.Nodup
import Mathlib.Data.List.Perm.Basic

namespace Latest

variable {κ α : Type}

/-! ## Maps -/

/-- `Map.set` -/
def set [DecidableEq κ] (key : κ) (value : α) : List (κ × α) → List (κ × α)
  | [] => [(key, value)]
  | (k, v) :: rest => if k = key then (key, value) :: rest else (k, v) :: set key value rest

/-- `Map.get` -/
def get [DecidableEq κ] (key : κ) (map : List (κ × α)) : Option α := (map.find? fun entry => entry.1 = key).map (·.2)

/-- No key twice. -/
def Keyed (map : List (κ × α)) : Prop := (map.map (·.1)).Nodup

theorem Keyed.filter {map : List (κ × α)} (h : Keyed map) (p : κ × α → Bool) : Keyed (map.filter p) :=
  List.Nodup.sublist (List.Sublist.map _ List.filter_sublist) h

/-- Maps with the same entries. -/
theorem Keyed.perm {map map' : List (κ × α)} (h : Keyed map) (h' : Keyed map') (hmem : ∀ k v, (k, v) ∈ map ↔ (k, v) ∈ map') :
    map.Perm map' :=
  (List.perm_ext_iff_of_nodup (List.Nodup.of_map _ h) (List.Nodup.of_map _ h')).mpr fun entry => hmem entry.1 entry.2

theorem Keyed.of_perm {map map' : List (κ × α)} (h : Keyed map) (hperm : map.Perm map') : Keyed map' :=
  (hperm.map _).nodup_iff.mp h

section Maps

variable [DecidableEq κ] {map : List (κ × α)} {key k : κ} {value v : α}

theorem mem_set (h : Keyed map) : (k, v) ∈ set key value map ↔ (k = key ∧ v = value) ∨ (k ≠ key ∧ (k, v) ∈ map) := by
  induction map with
  | nil =>
    rw [set, List.mem_singleton, Prod.mk.injEq]
    simp
  | cons entry rest ih =>
    obtain ⟨k0, v0⟩ := entry
    obtain ⟨hnew, hrest⟩ := List.nodup_cons.mp h
    rw [set]
    split
    · next heq =>
      subst heq
      have hother : ∀ w, (k0, w) ∉ rest := fun w hw => hnew (List.mem_map.mpr ⟨_, hw, rfl⟩)
      rw [List.mem_cons, List.mem_cons, Prod.mk.injEq, Prod.mk.injEq]
      constructor
      · rintro (hhead | htail)
        · exact .inl hhead
        · refine .inr ⟨?_, .inr htail⟩
          rintro rfl
          exact hother v htail
      · rintro (hhead | ⟨hne, ⟨heq, -⟩ | htail⟩)
        · exact .inl hhead
        · exact absurd heq hne
        · exact .inr htail
    · next hne =>
      rw [List.mem_cons, ih hrest, List.mem_cons, Prod.mk.injEq]
      constructor
      · rintro (⟨rfl, rfl⟩ | hset | ⟨hother, hmem⟩)
        · exact .inr ⟨hne, .inl ⟨rfl, rfl⟩⟩
        · exact .inl hset
        · exact .inr ⟨hother, .inr hmem⟩
      · rintro (hset | ⟨hother, ⟨rfl, rfl⟩ | hmem⟩)
        · exact .inr (.inl hset)
        · exact .inl ⟨rfl, rfl⟩
        · exact .inr (.inr ⟨hother, hmem⟩)

theorem keys_set : ∀ map : List (κ × α), ((set key value map).map (·.1)) =
    if key ∈ map.map (·.1) then map.map (·.1) else map.map (·.1) ++ [key]
  | [] => rfl
  | (k0, v0) :: rest => by
    rw [set]
    by_cases heq : k0 = key
    · rw [if_pos heq, if_pos]
      · rw [List.map_cons, List.map_cons, heq]
      · exact List.mem_map.mpr ⟨_, List.mem_cons_self, heq⟩
    · rw [if_neg heq, List.map_cons, keys_set rest]
      by_cases hmem : key ∈ rest.map (·.1)
      · have hthere : key ∈ ((k0, v0) :: rest).map (·.1) := List.mem_cons_of_mem _ hmem
        rw [if_pos hmem, if_pos hthere]
        rfl
      · rw [if_neg hmem, if_neg]
        · rfl
        · intro h
          rcases List.mem_cons.mp h with h | h
          · exact heq h.symm
          · exact hmem h

theorem Keyed.set (h : Keyed map) : Keyed (set key value map) := by
  unfold Keyed at *
  rw [keys_set]
  split
  · exact h
  · next hnew =>
    refine List.nodup_append.mpr ⟨h, List.nodup_singleton _, ?_⟩
    intro a ha b hb hab
    rw [List.mem_singleton.mp hb] at hab
    exact hnew (hab ▸ ha)

theorem set_perm {map' : List (κ × α)} (h : Keyed map) (hperm : map.Perm map') :
    (set key value map).Perm (set key value map') := by
  have h' := h.of_perm hperm
  refine h.set.perm h'.set fun k v => ?_
  rw [mem_set h, mem_set h', hperm.mem_iff]

/-- Put in entries, each in place of the one that is there. -/
def setAll (entries : List (κ × α)) (map : List (κ × α)) : List (κ × α) :=
  entries.foldl (fun map entry => set entry.1 entry.2 map) map

theorem setAll_perm (entries : List (κ × α)) : ∀ {map map' : List (κ × α)}, Keyed map → map.Perm map' →
    (setAll entries map).Perm (setAll entries map') := by
  induction entries with
  | nil => exact fun _ hperm => hperm
  | cons entry entries ih => exact fun h hperm => ih h.set (set_perm h hperm)

/-- The entries of the result are entries of the one or the other, and its keys are the keys of both. -/
theorem setAll_spec (entries : List (κ × α)) : ∀ {map : List (κ × α)}, Keyed map → Keyed (setAll entries map) ∧
    (∀ k v, (k, v) ∈ setAll entries map → (k, v) ∈ map ∨ (k, v) ∈ entries) ∧
    ∀ k, k ∈ (setAll entries map).map (·.1) ↔ k ∈ map.map (·.1) ∨ k ∈ entries.map (·.1) := by
  induction entries with
  | nil => exact fun h => ⟨h, fun k v hmem => .inl hmem, fun k => by simp [setAll]⟩
  | cons entry entries ih =>
    intro map h
    obtain ⟨key, value⟩ := entry
    obtain ⟨hkeyed, hfrom, hkeys⟩ := @ih (set key value map) h.set
    refine ⟨hkeyed, fun k v hmem => ?_, fun k => ?_⟩
    · rcases hfrom k v hmem with hset | hmem
      · rcases (mem_set h).mp hset with ⟨rfl, rfl⟩ | ⟨-, hold⟩
        · exact .inr List.mem_cons_self
        · exact .inl hold
      · exact .inr (List.mem_cons_of_mem _ hmem)
    · have hset : k ∈ (set key value map).map (·.1) ↔ k ∈ map.map (·.1) ∨ k = key := by
        rw [keys_set]
        by_cases hthere : key ∈ map.map (·.1)
        · rw [if_pos hthere]
          refine ⟨.inl, ?_⟩
          rintro (hk | rfl)
          · exact hk
          · exact hthere
        · rw [if_neg hthere, List.mem_append, List.mem_singleton]
      refine (hkeys k).trans ?_
      rw [hset, List.map_cons, List.mem_cons, or_assoc]

theorem get_eq_some (h : Keyed map) : get key map = some value ↔ (key, value) ∈ map := by
  unfold get
  rw [Option.map_eq_some_iff]
  constructor
  · rintro ⟨⟨k0, v0⟩, hfind, rfl⟩
    have hkey := List.find?_some hfind
    obtain rfl : k0 = key := of_decide_eq_true hkey
    exact List.mem_of_find?_eq_some hfind
  · intro hmem
    cases hfind : map.find? fun entry => entry.1 = key with
    | none => exact absurd (decide_eq_true rfl) (List.find?_eq_none.mp hfind _ hmem)
    | some entry =>
      refine ⟨entry, rfl, ?_⟩
      have hfound := List.find?_some hfind
      have hkey : entry.1 = key := of_decide_eq_true hfound
      have hentry := List.inj_on_of_nodup_map h (List.mem_of_find?_eq_some hfind) hmem hkey
      rw [hentry]

theorem get_eq_none : get key map = none ↔ ∀ v, (key, v) ∉ map := by
  unfold get
  rw [Option.map_eq_none_iff, List.find?_eq_none]
  constructor
  · exact fun h v hmem => h _ hmem (decide_eq_true rfl)
  · rintro h ⟨k0, v0⟩ hmem heq
    obtain rfl : k0 = key := of_decide_eq_true heq
    exact h v0 hmem

end Maps

/-! ## Remembering -/

section Remembering

variable [DecidableEq κ] (later : α → α → Bool)

/-- Put a row into the map, unless the row there is as late. -/
def remember (map : List (κ × α)) (key : κ) (row : α) : List (κ × α) :=
  match get key map with
  | none => set key row map
  | some previous => if later row previous then set key row map else map

/-- Put in rows, each under its key. -/
def rememberAll (entries : List (κ × α)) (map : List (κ × α)) : List (κ × α) :=
  entries.foldl (fun map entry => remember later map entry.1 entry.2) map

/-- The order of the rows that the choice respects. -/
structure Respects (le : α → α → Prop) (later : α → α → Bool) : Prop where
  refl : ∀ a, le a a
  trans : ∀ {a b c}, le a b → le b c → le a c
  takes : ∀ {a b}, later a b = true → le b a
  keeps : ∀ {a b}, later a b = false → le a b

theorem keyed_remember {later : α → α → Bool} {map : List (κ × α)} (h : Keyed map) (key : κ) (row : α) :
    Keyed (remember later map key row) := by
  unfold remember
  split
  · exact h.set
  · split
    · exact h.set
    · exact h

theorem mem_remember {later : α → α → Bool} {map : List (κ × α)} (h : Keyed map) (key : κ) (row : α) (k : κ) (v : α) :
    (k, v) ∈ remember later map key row ↔
      (k = key ∧ ((v = row ∧ ∀ w, (key, w) ∈ map → later row w = true) ∨ ((key, v) ∈ map ∧ later row v = false))) ∨
      (k ≠ key ∧ (k, v) ∈ map) := by
  have hone : ∀ {a b}, (key, a) ∈ map → (key, b) ∈ map → a = b := fun ha hb =>
    (Prod.mk.inj (List.inj_on_of_nodup_map h ha hb rfl)).2
  unfold remember
  cases hget : get key map with
  | none =>
    have hnew := get_eq_none.mp hget
    dsimp only
    rw [mem_set h]
    constructor
    · rintro (⟨hk, hv⟩ | hold)
      · exact .inl ⟨hk, .inl ⟨hv, fun w hw => absurd hw (hnew w)⟩⟩
      · exact .inr hold
    · rintro (⟨hk, ⟨hv, -⟩ | ⟨hmem, -⟩⟩ | hold)
      · exact .inl ⟨hk, hv⟩
      · exact absurd hmem (hnew v)
      · exact .inr hold
  | some previous =>
    have hprevious := (get_eq_some h).mp hget
    dsimp only
    cases hlater : later row previous with
    | true =>
      rw [if_pos rfl, mem_set h]
      constructor
      · rintro (⟨hk, hv⟩ | hold)
        · exact .inl ⟨hk, .inl ⟨hv, fun w hw => hone hprevious hw ▸ hlater⟩⟩
        · exact .inr hold
      · rintro (⟨hk, ⟨hv, -⟩ | ⟨hmem, hkept⟩⟩ | hold)
        · exact .inl ⟨hk, hv⟩
        · rw [hone hmem hprevious, hlater] at hkept
          exact absurd hkept (by decide)
        · exact .inr hold
    | false =>
      rw [if_neg Bool.false_ne_true]
      constructor
      · intro hmem
        by_cases hk : k = key
        · subst hk
          exact .inl ⟨rfl, .inr ⟨hmem, hone hprevious hmem ▸ hlater⟩⟩
        · exact .inr ⟨hk, hmem⟩
      · rintro (⟨hk, ⟨-, hall⟩ | ⟨hmem, -⟩⟩ | ⟨-, hmem⟩)
        · rw [hall previous hprevious] at hlater
          exact absurd hlater (by decide)
        · exact hk ▸ hmem
        · exact hmem

variable {le : α → α → Prop} {later : α → α → Bool}

theorem remember_spec (hle : Respects le later) {map : List (κ × α)} (h : Keyed map) (key : κ) (row : α) :
    Keyed (remember later map key row) ∧
    (∀ k v, (k, v) ∈ remember later map key row → (k, v) ∈ map ∨ (k = key ∧ v = row)) ∧
    (∀ k v, (k, v) ∈ map → ∃ w, (k, w) ∈ remember later map key row ∧ le v w) ∧
    ∃ w, (key, w) ∈ remember later map key row ∧ le row w := by
  unfold remember
  cases hget : get key map with
  | none =>
    have hnew := get_eq_none.mp hget
    dsimp only
    refine ⟨h.set, ?_, ?_, row, (mem_set h).mpr (.inl ⟨rfl, rfl⟩), hle.refl row⟩
    · intro k v hmem
      rcases (mem_set h).mp hmem with hset | ⟨-, hmem⟩
      · exact .inr hset
      · exact .inl hmem
    · intro k v hmem
      refine ⟨v, (mem_set h).mpr (.inr ⟨?_, hmem⟩), hle.refl v⟩
      rintro rfl
      exact hnew v hmem
  | some previous =>
    have hprevious := (get_eq_some h).mp hget
    dsimp only
    cases hlater : later row previous with
    | true =>
      rw [if_pos rfl]
      refine ⟨h.set, ?_, ?_, row, (mem_set h).mpr (.inl ⟨rfl, rfl⟩), hle.refl row⟩
      · intro k v hmem
        rcases (mem_set h).mp hmem with hset | ⟨-, hmem⟩
        · exact .inr hset
        · exact .inl hmem
      · intro k v hmem
        by_cases hk : k = key
        · subst hk
          have hv := List.inj_on_of_nodup_map h hmem hprevious rfl
          obtain rfl := (Prod.mk.inj hv).2
          exact ⟨row, (mem_set h).mpr (.inl ⟨rfl, rfl⟩), hle.takes hlater⟩
        · exact ⟨v, (mem_set h).mpr (.inr ⟨hk, hmem⟩), hle.refl v⟩
    | false =>
      rw [if_neg Bool.false_ne_true]
      refine ⟨h, fun k v hmem => .inl hmem, fun k v hmem => ⟨v, hmem, hle.refl v⟩, previous, hprevious, ?_⟩
      exact hle.keeps hlater

theorem rememberAll_spec (hle : Respects le later) (entries : List (κ × α)) : ∀ {map : List (κ × α)}, Keyed map →
    Keyed (rememberAll later entries map) ∧
    (∀ k v, (k, v) ∈ rememberAll later entries map → (k, v) ∈ map ∨ (k, v) ∈ entries) ∧
    (∀ k v, (k, v) ∈ map → ∃ w, (k, w) ∈ rememberAll later entries map ∧ le v w) ∧
    ∀ k v, (k, v) ∈ entries → ∃ w, (k, w) ∈ rememberAll later entries map ∧ le v w := by
  induction entries with
  | nil =>
    intro map h
    exact ⟨h, fun k v hmem => .inl hmem, fun k v hmem => ⟨v, hmem, hle.refl v⟩, fun k v hmem => nomatch hmem⟩
  | cons entry entries ih =>
    intro map h
    obtain ⟨key, row⟩ := entry
    obtain ⟨hkeyed, hfrom, hold, w, hw, hrow⟩ := remember_spec hle h key row
    obtain ⟨hkeyed', hfrom', hold', hnew'⟩ := ih hkeyed
    refine ⟨hkeyed', ?_, ?_, ?_⟩
    · intro k v hmem
      rcases hfrom' k v hmem with hmem | hmem
      · rcases hfrom k v hmem with hmem | ⟨rfl, rfl⟩
        · exact .inl hmem
        · exact .inr List.mem_cons_self
      · exact .inr (List.mem_cons_of_mem _ hmem)
    · intro k v hmem
      obtain ⟨x, hx, hvx⟩ := hold k v hmem
      obtain ⟨y, hy, hxy⟩ := hold' k x hx
      exact ⟨y, hy, hle.trans hvx hxy⟩
    · intro k v hmem
      rcases List.mem_cons.mp hmem with heq | hmem
      · obtain ⟨rfl, rfl⟩ := Prod.mk.inj heq
        obtain ⟨y, hy, hwy⟩ := hold' k w hw
        exact ⟨y, hy, hle.trans hrow hwy⟩
      · exact hnew' k v hmem

/-- Which entry stands under a key when each key comes once. -/
theorem mem_rememberAll {later : α → α → Bool} (entries : List (κ × α)) : ∀ {map : List (κ × α)}, Keyed map → Keyed entries →
    ∀ k v, (k, v) ∈ rememberAll later entries map ↔
      ((k, v) ∈ entries ∧ ∀ w, (k, w) ∈ map → later v w = true) ∨
      ((k, v) ∈ map ∧ ∀ w, (k, w) ∈ entries → later w v = false) := by
  induction entries with
  | nil =>
    intro map h _ k v
    show (k, v) ∈ map ↔ _
    simp
  | cons entry entries ih =>
    intro map h hentries k v
    obtain ⟨key, row⟩ := entry
    obtain ⟨hnew, hrest⟩ := List.nodup_cons.mp hentries
    have hother : ∀ w, (key, w) ∉ entries := fun w hw => hnew (List.mem_map.mpr ⟨_, hw, rfl⟩)
    have hone : ∀ k v, (k, v) ∈ remember later map key row ↔
        (k = key ∧ ((v = row ∧ ∀ w, (key, w) ∈ map → later row w = true) ∨ ((key, v) ∈ map ∧ later row v = false))) ∨
        (k ≠ key ∧ (k, v) ∈ map) := mem_remember h key row
    have hkeyed : Keyed (remember later map key row) := keyed_remember h key row
    show (k, v) ∈ rememberAll later entries (remember later map key row) ↔ _
    rw [ih hkeyed hrest k v, hone, List.mem_cons, Prod.mk.injEq]
    by_cases hk : k = key
    · subst hk
      constructor
      · rintro (⟨hmem, -⟩ | ⟨⟨-, ⟨rfl, hall⟩ | ⟨hmem, hlater⟩⟩ | ⟨hne, -⟩, -⟩)
        · exact absurd hmem (hother v)
        · exact .inl ⟨.inl ⟨rfl, rfl⟩, hall⟩
        · refine .inr ⟨hmem, fun w hw => ?_⟩
          rcases List.mem_cons.mp hw with heq | hw
          · rw [(Prod.mk.inj heq).2]
            exact hlater
          · exact absurd hw (hother w)
        · exact absurd rfl hne
      · rintro (⟨⟨-, rfl⟩ | hmem, hall⟩ | ⟨hmem, hall⟩)
        · exact .inr ⟨.inl ⟨rfl, .inl ⟨rfl, hall⟩⟩, fun w hw => absurd hw (hother w)⟩
        · exact absurd hmem (hother v)
        · exact .inr ⟨.inl ⟨rfl, .inr ⟨hmem, hall row List.mem_cons_self⟩⟩, fun w hw => absurd hw (hother w)⟩
    · constructor
      · rintro (⟨hmem, hall⟩ | ⟨⟨heq, -⟩ | ⟨-, hmem⟩, hall⟩)
        · exact .inl ⟨.inr hmem, fun w hw => hall w ((hone k w).mpr (.inr ⟨hk, hw⟩))⟩
        · exact absurd heq hk
        · refine .inr ⟨hmem, fun w hw => ?_⟩
          rcases List.mem_cons.mp hw with heq | hw
          · exact absurd (Prod.mk.inj heq).1 hk
          · exact hall w hw
      · rintro (⟨⟨heq, -⟩ | hmem, hall⟩ | ⟨hmem, hall⟩)
        · exact absurd heq hk
        · refine .inl ⟨hmem, fun w hw => ?_⟩
          rcases (hone k w).mp hw with ⟨heq, -⟩ | ⟨-, hw⟩
          · exact absurd heq hk
          · exact hall w hw
        · exact .inr ⟨.inr ⟨hk, hmem⟩, fun w hw => hall w (List.mem_cons_of_mem _ hw)⟩

theorem keyed_rememberAll {later : α → α → Bool} (entries : List (κ × α)) : ∀ {map : List (κ × α)}, Keyed map →
    Keyed (rememberAll later entries map) := by
  induction entries with
  | nil => exact fun h => h
  | cons entry entries ih => exact fun h => ih (keyed_remember h entry.1 entry.2)

/-- The same entries put into the same map. -/
theorem rememberAll_perm {later : α → α → Bool} {entries entries' map map' : List (κ × α)} (h : Keyed map)
    (hentries : Keyed entries) (hperm : map.Perm map') (hperm' : entries.Perm entries') :
    (rememberAll later entries map).Perm (rememberAll later entries' map') := by
  have h' := h.of_perm hperm
  have hentries' := hentries.of_perm hperm'
  refine (keyed_rememberAll entries h).perm (keyed_rememberAll entries' h') fun k v => ?_
  rw [mem_rememberAll entries h hentries, mem_rememberAll entries' h' hentries']
  simp only [hperm.mem_iff, hperm'.mem_iff]

end Remembering

/-! ## Catalogs -/

/-- A map that has, for every key among the rows, a greatest row of the key. -/
structure Catalog (le : α → α → Prop) (key : α → Option κ) (rows : List α) (map : List (κ × α)) : Prop where
  keyed : Keyed map
  mem : ∀ k v, (k, v) ∈ map → v ∈ rows ∧ key v = some k
  greatest : ∀ k v, (k, v) ∈ map → ∀ r ∈ rows, key r = some k → le r v
  covers : ∀ r ∈ rows, ∀ k, key r = some k → ∃ v, (k, v) ∈ map

/-- What a reading of some rows brings: under every key of theirs a greatest row. -/
structure Reading (le : α → α → Prop) (key : α → Option κ) (rows : List α) (entries : List (κ × α)) : Prop where
  mem : ∀ k v, (k, v) ∈ entries → v ∈ rows ∧ key v = some k
  greatest : ∀ r ∈ rows, ∀ k, key r = some k → ∃ v, (k, v) ∈ entries ∧ le r v

variable {le : α → α → Prop} {key : α → Option κ} {rows new : List α} {map : List (κ × α)}

theorem Catalog.nil (le : α → α → Prop) (key : α → Option κ) : Catalog le key [] ([] : List (κ × α)) where
  keyed := List.nodup_nil
  mem := fun _ _ h => nomatch h
  greatest := fun _ _ h => nomatch h
  covers := fun _ h => nomatch h

/-- **Rows arrive**: only the new ones are read. -/
theorem Catalog.append [DecidableEq κ] {later : α → α → Bool} (hle : Respects le later) (h : Catalog le key rows map)
    {entries : List (κ × α)} (hnew : Reading le key new entries) :
    Catalog le key (rows ++ new) (rememberAll later entries map) := by
  obtain ⟨hkeyed, hfrom, hold, hentries⟩ := rememberAll_spec hle entries h.keyed
  refine ⟨hkeyed, ?_, ?_, ?_⟩
  · intro k v hmem
    rcases hfrom k v hmem with hmem | hmem
    · exact ⟨List.mem_append_left _ (h.mem k v hmem).1, (h.mem k v hmem).2⟩
    · exact ⟨List.mem_append_right _ (hnew.mem k v hmem).1, (hnew.mem k v hmem).2⟩
  · intro k v hmem r hr hk
    have hsame : ∀ w, (k, w) ∈ rememberAll later entries map → w = v := fun w hw =>
      (Prod.mk.inj (List.inj_on_of_nodup_map hkeyed hw hmem rfl)).2
    rcases List.mem_append.mp hr with hr | hr
    · obtain ⟨u, hu⟩ := h.covers r hr k hk
      obtain ⟨w, hw, huw⟩ := hold k u hu
      exact hsame w hw ▸ hle.trans (h.greatest k u hu r hr hk) huw
    · obtain ⟨u, hu, hru⟩ := hnew.greatest r hr k hk
      obtain ⟨w, hw, huw⟩ := hentries k u hu
      exact hsame w hw ▸ hle.trans hru huw
  · intro r hr k hk
    rcases List.mem_append.mp hr with hr | hr
    · obtain ⟨u, hu⟩ := h.covers r hr k hk
      obtain ⟨w, hw, -⟩ := hold k u hu
      exact ⟨w, hw⟩
    · obtain ⟨u, hu, -⟩ := hnew.greatest r hr k hk
      obtain ⟨w, hw, -⟩ := hentries k u hu
      exact ⟨w, hw⟩

/-- **Rows expire**: with the representative of a key every row of the key has expired. -/
theorem Catalog.expire (h : Catalog le key rows map) {p : α → Bool} (hp : ∀ {a b}, le a b → p b = false → p a = false) :
    Catalog le key (rows.filter p) (map.filter fun entry => p entry.2) where
  keyed := h.keyed.filter _
  mem k v hmem := by
    obtain ⟨hmem, hv⟩ := List.mem_filter.mp hmem
    exact ⟨List.mem_filter.mpr ⟨(h.mem k v hmem).1, hv⟩, (h.mem k v hmem).2⟩
  greatest k v hmem r hr := h.greatest k v (List.mem_filter.mp hmem).1 r (List.mem_filter.mp hr).1
  covers r hr k hk := by
    obtain ⟨hr, hpr⟩ := List.mem_filter.mp hr
    obtain ⟨v, hv⟩ := h.covers r hr k hk
    refine ⟨v, List.mem_filter.mpr ⟨hv, ?_⟩⟩
    cases hpv : p v with
    | true => rfl
    | false => exact absurd (hp (h.greatest k v hv r hr hk) hpv) (by simp [hpr])

/-- **Rows are deleted**: a catalog whose rows are still there is one of the rows that are left. -/
theorem Catalog.restrict (h : Catalog le key rows map) {left : List α} (hleft : ∀ r ∈ left, r ∈ rows)
    (hthere : ∀ k v, (k, v) ∈ map → v ∈ left) : Catalog le key left map where
  keyed := h.keyed
  mem k v hmem := ⟨hthere k v hmem, (h.mem k v hmem).2⟩
  greatest k v hmem r hr := h.greatest k v hmem r (hleft r hr)
  covers r hr := h.covers r (hleft r hr)

/-- Two catalogs of the same rows have the same keys. -/
theorem Catalog.keys_perm {map' : List (κ × α)} (h : Catalog le key rows map) (h' : Catalog le key rows map') :
    (map.map (·.1)).Perm (map'.map (·.1)) := by
  have hsub : ∀ {m m' : List (κ × α)}, Catalog le key rows m → Catalog le key rows m' →
      ∀ k, k ∈ m.map (·.1) → k ∈ m'.map (·.1) := by
    intro m m' hm hm' k hk
    obtain ⟨⟨k, v⟩, hmem, rfl⟩ := List.mem_map.mp hk
    obtain ⟨w, hw⟩ := hm'.covers v (hm.mem k v hmem).1 k (hm.mem k v hmem).2
    exact List.mem_map.mpr ⟨_, hw, rfl⟩
  exact (List.perm_ext_iff_of_nodup h.keyed h'.keyed).mpr fun k => ⟨hsub h h' k, hsub h' h k⟩

/-- Where no two rows are as great, two catalogs of the same rows are the same map. -/
theorem Catalog.perm {map' : List (κ × α)} (h : Catalog le key rows map) (h' : Catalog le key rows map')
    (hanti : ∀ a ∈ rows, ∀ b ∈ rows, le a b → le b a → a = b) : map.Perm map' := by
  have hsub : ∀ {m m' : List (κ × α)}, Catalog le key rows m → Catalog le key rows m' → ∀ entry, entry ∈ m → entry ∈ m' := by
    rintro m m' hm hm' ⟨k, v⟩ hmem
    obtain ⟨hv, hk⟩ := hm.mem k v hmem
    obtain ⟨w, hw⟩ := hm'.covers v hv k hk
    obtain ⟨hwr, hwk⟩ := hm'.mem k w hw
    have heq := hanti v hv w hwr (hm'.greatest k w hw v hv hk) (hm.greatest k v hmem w hwr hwk)
    exact heq ▸ hw
  have hnodup : ∀ {m : List (κ × α)}, Keyed m → m.Nodup := fun hm => List.Nodup.of_map _ hm
  exact (List.perm_ext_iff_of_nodup (hnodup h.keyed) (hnodup h'.keyed)).mpr fun entry =>
    ⟨hsub h h' entry, hsub h' h entry⟩

end Latest
