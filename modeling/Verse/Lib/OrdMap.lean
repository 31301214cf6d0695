import Mathlib

/-!
# Finite maps with ordered keys

An association list whose keys strictly increase. Order is part of the value, so that two
maps with the same bindings are equal (`ext`), iteration visits the keys in ascending order,
and equality is decidable whenever the values have it.

Three views of one map are used, and the file is arranged by them:

* *pointwise*, through `get?`, which is how updates are reasoned about;
* *as a list*, through `entries`, which is what a loop over the map sees;
* *as a total*, through `sumBy`, which is what a balance over all bindings needs.
-/

namespace Lib

variable {κ : Type*} {α β : Type*}

namespace OrdMap

/-- The value bound to a key in an association list. -/
def lookup [DecidableEq κ] (k : κ) : List (κ × α) → Option α
  | [] => none
  | (k', v) :: rest => if k = k' then some v else lookup k rest

/-- Insertion into a key-ordered list, replacing a binding of the same key. -/
def insertList [LinearOrder κ] (k : κ) (v : α) : List (κ × α) → List (κ × α)
  | [] => [(k, v)]
  | (k', v') :: rest =>
    if k < k' then (k, v) :: (k', v') :: rest
    else if k = k' then (k, v) :: rest
    else (k', v') :: insertList k v rest

/-- Strictly increasing keys. -/
def Sorted [LinearOrder κ] (l : List (κ × α)) : Prop :=
  l.Pairwise fun a b => a.1 < b.1

section lists

variable [LinearOrder κ] {k k' : κ} {v v' : α} {l : List (κ × α)}

attribute [local simp] lookup insertList

theorem mem_insertList {p : κ × α} : p ∈ insertList k v l → p = (k, v) ∨ p ∈ l := by
  induction l with
  | nil => simp [insertList]
  | cons hd tl ih =>
    obtain ⟨k', v'⟩ := hd
    rw [insertList]
    split_ifs with h1 h2
    · simp
    · intro hp
      rcases List.mem_cons.mp hp with h | h
      · exact .inl h
      · exact .inr (List.mem_cons_of_mem _ h)
    · intro hp
      rcases List.mem_cons.mp hp with h | h
      · exact .inr (h ▸ List.mem_cons_self)
      · rcases ih h with h | h
        · exact .inl h
        · exact .inr (List.mem_cons_of_mem _ h)

theorem Sorted.insertList (h : Sorted l) : Sorted (insertList k v l) := by
  induction l with
  | nil => simp [OrdMap.insertList, Sorted]
  | cons hd tl ih =>
    obtain ⟨k', v'⟩ := hd
    have htl : Sorted tl := List.Pairwise.of_cons h
    have hlt : ∀ p ∈ tl, k' < p.1 := (List.pairwise_cons.mp h).1
    rw [OrdMap.insertList]
    split_ifs with h1 h2
    · refine List.pairwise_cons.mpr ⟨fun p hp => ?_, h⟩
      rcases List.mem_cons.mp hp with rfl | hp
      · exact h1
      · exact h1.trans (hlt p hp)
    · subst h2
      exact List.pairwise_cons.mpr ⟨hlt, htl⟩
    · have hk : k' < k := lt_of_le_of_ne (not_lt.mp h1) (Ne.symm h2)
      refine List.pairwise_cons.mpr ⟨fun p hp => ?_, ih htl⟩
      rcases mem_insertList hp with rfl | hp
      · exact hk
      · exact hlt p hp

theorem lookup_insertList_self : lookup k (insertList k v l) = some v := by
  induction l with
  | nil => simp [insertList, lookup]
  | cons hd tl ih =>
    obtain ⟨k', v'⟩ := hd
    rw [insertList]
    split_ifs with h1 h2
    · simp [lookup]
    · simp [lookup]
    · simp [lookup, h2, ih]

theorem lookup_insertList_ne (hne : k' ≠ k) : lookup k' (insertList k v l) = lookup k' l := by
  induction l with
  | nil => simp [insertList, lookup, hne]
  | cons hd tl ih =>
    obtain ⟨k'', v''⟩ := hd
    rw [insertList]
    split_ifs with h1 h2
    · simp [lookup, hne]
    · subst h2; simp [lookup, hne]
    · simp only [lookup, ih]

theorem mem_iff_lookup (h : Sorted l) : (k, v) ∈ l ↔ lookup k l = some v := by
  induction l with
  | nil => simp [lookup]
  | cons hd tl ih =>
    obtain ⟨k', v'⟩ := hd
    have hlt : ∀ p ∈ tl, k' < p.1 := (List.pairwise_cons.mp h).1
    simp only [List.mem_cons, Prod.mk.injEq, lookup]
    split_ifs with hk
    · subst hk
      constructor
      · rintro (⟨-, rfl⟩ | hm)
        · rfl
        · exact absurd (hlt _ hm) (lt_irrefl _)
      · intro hv; exact .inl ⟨rfl, (Option.some.inj hv).symm⟩
    · simp [hk, ih (List.Pairwise.of_cons h)]

theorem Sorted.ext {l₁ l₂ : List (κ × α)} (h₁ : Sorted l₁) (h₂ : Sorted l₂)
    (h : ∀ k, lookup k l₁ = lookup k l₂) : l₁ = l₂ := by
  refine List.Perm.eq_of_pairwise ?_ h₁ h₂ ?_
  · intro a b _ _ hab hba
    exact absurd (hab.trans hba) (lt_irrefl _)
  · refine (List.perm_ext_iff_of_nodup ?_ ?_).mpr ?_
    · exact h₁.imp fun hab => fun he => absurd (he ▸ hab) (lt_irrefl _)
    · exact h₂.imp fun hab => fun he => absurd (he ▸ hab) (lt_irrefl _)
    · rintro ⟨k, v⟩
      rw [mem_iff_lookup h₁, mem_iff_lookup h₂, h k]

theorem lookup_filter_ne (k' : κ) :
    lookup k' (l.filter fun p => p.1 ≠ k) = if k' = k then none else lookup k' l := by
  induction l with
  | nil => simp [lookup]
  | cons hd tl ih =>
    obtain ⟨k'', v''⟩ := hd
    rw [List.filter_cons]
    by_cases hk : k'' = k
    · subst hk
      rw [if_neg (by simp), ih]
      by_cases hk' : k' = k''
      · rw [if_pos hk', if_pos hk']
      · rw [if_neg hk', if_neg hk', lookup, if_neg hk']
    · rw [if_pos (by simpa using hk), lookup, lookup, ih]
      by_cases hk' : k' = k''
      · subst hk'; rw [if_pos rfl, if_pos rfl, if_neg hk]
      · rw [if_neg hk', if_neg hk']

end lists
end OrdMap

/-- A finite map with strictly increasing keys. -/
structure OrdMap (κ : Type*) [LinearOrder κ] (α : Type*) where
  entries : List (κ × α)
  sorted : OrdMap.Sorted entries

namespace OrdMap

variable [LinearOrder κ]

instance [DecidableEq α] : DecidableEq (OrdMap κ α) := fun m n =>
  decidable_of_iff (m.entries = n.entries) (by cases m; cases n; simp)

/-- The map without bindings. -/
def empty : OrdMap κ α := ⟨[], List.Pairwise.nil⟩

instance : Inhabited (OrdMap κ α) := ⟨empty⟩

/-- The value bound to a key. -/
def get? (m : OrdMap κ α) (k : κ) : Option α := lookup k m.entries

/-- Bind a key, replacing its earlier value. -/
def insert (m : OrdMap κ α) (k : κ) (v : α) : OrdMap κ α :=
  ⟨insertList k v m.entries, m.sorted.insertList⟩

/-- Drop a binding. -/
def erase (m : OrdMap κ α) (k : κ) : OrdMap κ α :=
  ⟨m.entries.filter fun p => p.1 ≠ k, m.sorted.filter _⟩

/-- Whether a key is bound. -/
def contains (m : OrdMap κ α) (k : κ) : Bool := (m.get? k).isSome

/-- The keys, ascending. -/
def keys (m : OrdMap κ α) : List κ := m.entries.map Prod.fst

/-- The values, in the order of their keys. -/
def values (m : OrdMap κ α) : List α := m.entries.map Prod.snd

/-- The number of bindings. -/
def size (m : OrdMap κ α) : Nat := m.entries.length

/-- Change the value of a bound key. -/
def modify (m : OrdMap κ α) (k : κ) (f : α → α) : OrdMap κ α :=
  match m.get? k with
  | some v => m.insert k (f v)
  | none => m

/-- Keep the bindings whose key passes. -/
def filter (m : OrdMap κ α) (keep : κ → Bool) : OrdMap κ α :=
  ⟨m.entries.filter fun p => keep p.1, m.sorted.filter _⟩

/-- Build a map from a list, later bindings winning. -/
def ofList (l : List (κ × α)) : OrdMap κ α := l.foldl (fun m p => m.insert p.1 p.2) empty

/-! ## Pointwise -/

variable {m : OrdMap κ α} {k k' : κ} {v : α}

@[simp] theorem get?_empty : (empty : OrdMap κ α).get? k = none := rfl

@[simp] theorem get?_insert :
    (m.insert k v).get? k' = if k' = k then some v else m.get? k' := by
  by_cases h : k' = k
  · subst h; simp [get?, insert, lookup_insertList_self]
  · simp [get?, insert, lookup_insertList_ne h, h]

theorem get?_insert_self : (m.insert k v).get? k = some v := by simp

theorem get?_insert_ne (h : k' ≠ k) : (m.insert k v).get? k' = m.get? k' := by simp [h]

@[simp] theorem get?_erase : (m.erase k).get? k' = if k' = k then none else m.get? k' := by
  simpa [get?, erase] using lookup_filter_ne k'

@[ext] theorem ext {n : OrdMap κ α} (h : ∀ k, m.get? k = n.get? k) : m = n := by
  cases m with | mk l₁ h₁ => cases n with | mk l₂ h₂ =>
  have := Sorted.ext h₁ h₂ h
  subst this; rfl

@[simp] theorem insert_insert {v' : α} : (m.insert k v).insert k v' = m.insert k v' := by
  ext k'
  by_cases h : k' = k <;> simp [h]

@[simp] theorem get?_modify {f : α → α} :
    (m.modify k f).get? k' = if k' = k then (m.get? k).map f else m.get? k' := by
  unfold modify
  cases hk : m.get? k with
  | none =>
    by_cases h : k' = k
    · subst h; simp [hk]
    · simp [h]
  | some v => simp

/-- A fold of changes reaches each key with the changes meant for it, in their order. -/
theorem get?_foldl_modify {β : Type*} {key : β → κ} {change : β → α → α} {l : List β} :
    (l.foldl (fun m b => m.modify (key b) (change b)) m).get? k =
      (m.get? k).map fun v =>
        (l.filter fun b => decide (key b = k)).foldl (fun v b => change b v) v := by
  induction l generalizing m with
  | nil => simp
  | cons b rest ih =>
    rw [List.foldl_cons, ih, get?_modify]
    by_cases hk : k = key b
    · subst hk
      simp [Function.comp_def]
    · simp [hk, Ne.symm hk]

/-- Where each key is named at most once, by the one change that names it. -/
theorem get?_foldl_modify_of_nodup {β : Type*} {key : β → κ} {change : β → α → α} {l : List β}
    (hl : (l.map key).Nodup) :
    (l.foldl (fun m b => m.modify (key b) (change b)) m).get? k =
      (m.get? k).map fun v =>
        match l.find? fun b => decide (key b = k) with
        | some b => change b v
        | none => v := by
  rw [get?_foldl_modify]
  congr 1
  funext v
  cases hfind : l.find? fun b => decide (key b = k) with
  | none =>
    rw [List.filter_eq_nil_iff.mpr fun b hb => List.find?_eq_none.mp hfind b hb]
    rfl
  | some b =>
    have hb : key b = k := by simpa using List.find?_some hfind
    have honly : l.filter (fun b => decide (key b = k)) = [b] := by
      have hsub : (l.filter fun b => decide (key b = k)).Nodup := (List.Nodup.of_map key hl).filter _
      refine List.perm_singleton.mp ((List.perm_ext_iff_of_nodup hsub (by simp)).mpr fun c => ?_)
      simp only [List.mem_filter, decide_eq_true_eq, List.mem_singleton]
      constructor
      · exact fun ⟨hc, hk⟩ =>
          List.inj_on_of_nodup_map hl hc (List.mem_of_find?_eq_some hfind) (hk.trans hb.symm)
      · rintro rfl
        exact ⟨List.mem_of_find?_eq_some hfind, hb⟩
    rw [honly]
    rfl

@[simp] theorem get?_filter {keep} :
    (m.filter keep).get? k = if keep k then m.get? k else none := by
  have key : ∀ v, (m.filter keep).get? k = some v ↔ keep k ∧ m.get? k = some v := by
    intro v
    rw [get?, get?, ← mem_iff_lookup (m.filter keep).sorted, ← mem_iff_lookup m.sorted, filter,
      List.mem_filter, and_comm]
  split_ifs with hk
  · exact Option.ext fun v => by simp [key, hk]
  · exact Option.eq_none_iff_forall_ne_some.mpr fun v hv => hk ((key v).mp hv).1

variable {l : List (κ × α)}

theorem get?_foldl_insert
    (hl : ∀ p ∈ l, ∀ q ∈ l, p.1 = q.1 → p.2 = q.2) :
    (l.foldl (fun m p => m.insert p.1 p.2) m).get? k = some v ↔
      (k, v) ∈ l ∨ (m.get? k = some v ∧ ∀ p ∈ l, p.1 ≠ k) := by
  induction l generalizing m with
  | nil => simp
  | cons p rest ih =>
    obtain ⟨k', v'⟩ := p
    have hrest : ∀ p ∈ rest, ∀ q ∈ rest, p.1 = q.1 → p.2 = q.2 := fun p hp q hq =>
      hl p (List.mem_cons_of_mem _ hp) q (List.mem_cons_of_mem _ hq)
    rw [List.foldl_cons, ih hrest, get?_insert, List.mem_cons, List.forall_mem_cons]
    by_cases hk : k = k'
    · subst hk
      have hsame : ∀ p ∈ rest, p.1 = k → p.2 = v' := fun p hp he =>
        hl p (List.mem_cons_of_mem _ hp) _ List.mem_cons_self he
      constructor
      · rintro (hmem | ⟨hv, -⟩)
        · exact .inl (.inr hmem)
        · simp only [if_true, Option.some.injEq] at hv
          exact .inl (.inl (by rw [hv]))
      · rintro ((heq | hmem) | ⟨-, hne, -⟩)
        · obtain rfl : v = v' := (Prod.mk.inj heq).2
          by_cases hin : ∃ p ∈ rest, p.1 = k
          · obtain ⟨⟨k', v'⟩, hp, rfl⟩ := hin
            obtain rfl := hsame _ hp rfl
            exact .inl hp
          · exact .inr ⟨by simp, fun p hp he => hin ⟨p, hp, he⟩⟩
        · exact .inl hmem
        · exact absurd rfl hne
    · simp [hk, Ne.symm hk]

theorem of_get?_foldl_insert
    (h : (l.foldl (fun m p => m.insert p.1 p.2) m).get? k = some v) :
    (k, v) ∈ l ∨ m.get? k = some v := by
  induction l generalizing m with
  | nil => exact .inr h
  | cons p rest ih =>
    rcases ih h with hmem | hinsert
    · exact .inl (List.mem_cons_of_mem _ hmem)
    · rw [get?_insert] at hinsert
      split_ifs at hinsert with hk
      · obtain rfl := hk
        exact .inl (by rw [← Option.some.inj hinsert]; exact List.mem_cons_self)
      · exact .inr hinsert

/-- A list whose keys agree on their values becomes the map that binds them. -/
theorem get?_ofList (hl : ∀ p ∈ l, ∀ q ∈ l, p.1 = q.1 → p.2 = q.2) :
    (ofList l).get? k = some v ↔ (k, v) ∈ l := by
  simp [ofList, get?_foldl_insert hl]

theorem contains_iff : m.contains k = true ↔ ∃ v, m.get? k = some v := by
  simp [contains, Option.isSome_iff_exists]

@[simp] theorem contains_eq_false : m.contains k = false ↔ m.get? k = none := by
  simp [contains]

@[simp] theorem contains_insert :
    (m.insert k v).contains k' = (decide (k' = k) || m.contains k') := by
  by_cases h : k' = k <;> simp [contains, h]

/-! ## As a list -/

theorem mem_entries : (k, v) ∈ m.entries ↔ m.get? k = some v := mem_iff_lookup m.sorted

theorem mem_values : v ∈ m.values ↔ ∃ k, m.get? k = some v := by
  simp only [values, List.mem_map, Prod.exists, exists_eq_right]
  exact ⟨fun ⟨k, h⟩ => ⟨k, mem_entries.mp h⟩, fun ⟨k, h⟩ => ⟨k, mem_entries.mpr h⟩⟩

theorem mem_keys : k ∈ m.keys ↔ ∃ v, m.get? k = some v := by
  simp only [keys, List.mem_map, Prod.exists, exists_and_right, exists_eq_right]
  exact ⟨fun ⟨v, h⟩ => ⟨v, mem_entries.mp h⟩, fun ⟨v, h⟩ => ⟨v, mem_entries.mpr h⟩⟩

theorem forall_entries {p : κ × α → Prop} :
    (∀ e ∈ m.entries, p e) ↔ ∀ k v, m.get? k = some v → p (k, v) :=
  ⟨fun h _ _ hk => h _ (mem_entries.mpr hk), fun h e he => h e.1 e.2 (mem_entries.mp he)⟩

theorem entries_nodup : m.entries.Nodup :=
  m.sorted.imp fun h he => absurd (he ▸ h) (lt_irrefl _)

/-- A symmetric relation holds along the list when it holds of any two bindings of different
    keys. -/
theorem pairwise_entries {R : κ × α → κ × α → Prop} (hsymm : ∀ a b, R a b → R b a) :
    m.entries.Pairwise R ↔
      ∀ k v k' v', m.get? k = some v → m.get? k' = some v' → k ≠ k' → R (k, v) (k', v') := by
  constructor
  · intro h k v k' v' hk hk' hne
    have hsymmetric : Std.Symm R := ⟨fun a b => hsymm a b⟩
    exact h.forall (mem_entries.mpr hk) (mem_entries.mpr hk') (by simp [hne])
  · intro h
    refine List.Nodup.pairwise_of_forall_ne entries_nodup ?_
    rintro ⟨k, v⟩ hk ⟨k', v'⟩ hk' hne
    refine h k v k' v' (mem_entries.mp hk) (mem_entries.mp hk') ?_
    rintro rfl
    exact hne (by rw [Option.mem_unique (mem_entries.mp hk) (mem_entries.mp hk')])

theorem keys_sorted : m.keys.Pairwise (· < ·) := by
  have h := m.sorted
  unfold Sorted at h
  simpa [keys, List.pairwise_map] using h

theorem keys_nodup : m.keys.Nodup := keys_sorted.imp fun h => h.ne

variable {n : OrdMap κ β}

/-- Maps that bind the same keys list the same keys. -/
theorem keys_eq_of_isSome
    (h : ∀ k, (m.get? k).isSome = (n.get? k).isSome) : m.keys = n.keys := by
  refine List.Perm.eq_of_pairwise ?_ keys_sorted keys_sorted ?_
  · intro a b _ _ hab hba
    exact absurd (hab.trans hba) (lt_irrefl _)
  · refine (List.perm_ext_iff_of_nodup keys_nodup keys_nodup).mpr fun k => ?_
    rw [mem_keys, mem_keys, ← Option.isSome_iff_exists, ← Option.isSome_iff_exists, h k]

theorem size_eq_of_isSome
    (h : ∀ k, (m.get? k).isSome = (n.get? k).isSome) : m.size = n.size := by
  simpa [keys, size] using congrArg List.length (keys_eq_of_isSome h)

/-- Binding a key above every bound one appends to the list. -/
theorem entries_insert_of_gt (h : ∀ p ∈ m.entries, p.1 < k) :
    (m.insert k v).entries = m.entries ++ [(k, v)] := by
  have key : ∀ l : List (κ × α), (∀ p ∈ l, p.1 < k) → insertList k v l = l ++ [(k, v)] := by
    intro l
    induction l with
    | nil => intro _; rfl
    | cons hd tl ih =>
      intro hl
      obtain ⟨k', v'⟩ := hd
      have hk : k' < k := hl _ List.mem_cons_self
      rw [insertList, if_neg (not_lt.mpr hk.le), if_neg hk.ne',
        ih fun p hp => hl p (List.mem_cons_of_mem _ hp)]
      rfl
  exact key m.entries h

/-! ## Up to order -/

/-- A bound key can be taken out in front. -/
theorem perm_cons_erase (h : m.get? k = some v) : m.entries.Perm ((k, v) :: (m.erase k).entries) := by
  have hnot : (k, v) ∉ (m.erase k).entries := fun hmem => by simpa using mem_entries.mp hmem
  refine (List.perm_ext_iff_of_nodup entries_nodup
    (List.nodup_cons.mpr ⟨hnot, entries_nodup⟩)).mpr ?_
  rintro ⟨k', v'⟩
  rw [List.mem_cons, mem_entries, mem_entries, get?_erase, Prod.mk.injEq]
  by_cases hk : k' = k
  · subst hk
    simp [h, eq_comm]
  · simp [hk]

/-- Binding a fresh key puts it in front. -/
theorem insert_perm_cons (h : m.get? k = none) :
    (m.insert k v).entries.Perm ((k, v) :: m.entries) := by
  have hperm := perm_cons_erase (get?_insert_self (m := m) (k := k) (v := v))
  have herase : (m.insert k v).erase k = m := by
    ext k'
    by_cases hk : k' = k <;> simp [hk, h]
  rwa [herase] at hperm

theorem size_insert_new (h : m.get? k = none) : (m.insert k v).size = m.size + 1 := by
  simpa [size] using (insert_perm_cons (v := v) h).length_eq

/-- A fresh binding that contributes nothing leaves a concatenation over the map alone. -/
theorem flatMap_entries_insert {f : κ × α → List β} (h : m.get? k = none) (hf : f (k, v) = []) :
    (m.insert k v).entries.flatMap f = m.entries.flatMap f := by
  have key : ∀ l : List (κ × α), lookup k l = none →
      (insertList k v l).flatMap f = l.flatMap f := by
    intro l hl
    induction l with
    | nil => simp [insertList, hf]
    | cons hd tl ih =>
      obtain ⟨k', v'⟩ := hd
      rw [lookup] at hl
      split_ifs at hl with hk
      rw [insertList, if_neg hk]
      split_ifs with hlt
      · simp [hf]
      · rw [List.flatMap_cons, List.flatMap_cons, ih hl]
  exact key m.entries h

/-- New bindings of distinct keys come beside the old ones. -/
theorem foldl_insert_perm (hl : (l.map Prod.fst).Nodup)
    (hfresh : ∀ p ∈ l, m.get? p.1 = none) :
    (l.foldl (fun m p => m.insert p.1 p.2) m).entries.Perm (l ++ m.entries) := by
  induction l generalizing m with
  | nil => exact List.Perm.refl _
  | cons p rest ih =>
    obtain ⟨hp, hrest⟩ := List.nodup_cons.mp hl
    have hfresh' : ∀ q ∈ rest, (m.insert p.1 p.2).get? q.1 = none := by
      intro q hq
      rw [get?_insert_ne]
      · exact hfresh q (List.mem_cons_of_mem _ hq)
      · exact fun he => hp (List.mem_map.mpr ⟨q, hq, he⟩)
    exact (ih hrest hfresh').trans
      (((insert_perm_cons (hfresh p List.mem_cons_self)).append_left rest).trans List.perm_middle)

/-- A list without repeated keys becomes a map with the same bindings. -/
theorem ofList_perm (h : (l.map Prod.fst).Nodup) :
    (ofList l).entries.Perm l := by
  have hperm := foldl_insert_perm (m := empty) h fun p _ => get?_empty
  rwa [show (empty : OrdMap κ α).entries = [] from rfl, List.append_nil] at hperm

/-! ## As a total -/

/-- The total of a measure over all bindings. -/
def sumBy (m : OrdMap κ α) (f : α → Nat) : Nat := (m.values.map f).sum

variable {f : α → Nat}

theorem sumBy_eq : m.sumBy f = (m.entries.map fun p => f p.2).sum := by
  simp [sumBy, values, List.map_map, Function.comp_def]

/-- A bound key contributes its value; the rest is the map without it. -/
theorem sumBy_eq_add_erase (h : m.get? k = some v) :
    m.sumBy f = f v + (m.erase k).sumBy f := by
  rw [sumBy_eq, sumBy_eq, ((perm_cons_erase h).map _).sum_eq]
  simp

theorem erase_of_none (h : m.get? k = none) : m.erase k = m := by
  ext k'
  by_cases hk : k' = k
  · subst hk; simp [h]
  · simp [hk]

theorem erase_insert : (m.insert k v).erase k = m.erase k := by
  ext k'
  by_cases hk : k' = k <;> simp [hk]

/-- A concatenation over a map, with the binding at one key taken to the front. -/
theorem size_insert_le : (m.insert k v).size ≤ m.size + 1 := by
  cases h : m.get? k with
  | none => exact Nat.le_of_eq (size_insert_new h)
  | some w =>
    have hold := (perm_cons_erase h).length_eq
    have hnew := (perm_cons_erase (get?_insert_self (m := m) (k := k) (v := v))).length_eq
    rw [erase_insert, List.length_cons] at hnew
    rw [List.length_cons] at hold
    exact Nat.le_succ_of_le (Nat.le_of_eq (hnew.trans hold.symm))

theorem flatMap_entries_insert_perm {f : κ × α → List β} :
    ((m.insert k v).entries.flatMap f).Perm (f (k, v) ++ (m.erase k).entries.flatMap f) := by
  have hperm := perm_cons_erase (get?_insert_self (m := m) (k := k) (v := v))
  rw [erase_insert] at hperm
  exact hperm.flatMap_right f

theorem flatMap_entries_perm {f : κ × α → List β} (h : m.get? k = some v) :
    (m.entries.flatMap f).Perm (f (k, v) ++ (m.erase k).entries.flatMap f) :=
  (perm_cons_erase h).flatMap_right f

theorem sumBy_insert :
    (m.insert k v).sumBy f = f v + (m.erase k).sumBy f := by
  rw [sumBy_eq_add_erase (get?_insert_self (m := m) (k := k) (v := v)), erase_insert]

/-- Binding a fresh key adds its value to the total. -/
theorem sumBy_insert_new (h : m.get? k = none) :
    (m.insert k v).sumBy f = f v + m.sumBy f := by
  rw [sumBy_insert, erase_of_none h]

/-- Replacing a value trades the old contribution for the new one. -/
theorem sumBy_insert_add {w : α} (h : m.get? k = some w) :
    (m.insert k v).sumBy f + f w = m.sumBy f + f v := by
  rw [sumBy_insert, sumBy_eq_add_erase h]
  omega

variable {g : α → α}

/-- Changing a value trades its contribution. -/
theorem sumBy_modify_add (h : m.get? k = some v) :
    (m.modify k g).sumBy f + f v = m.sumBy f + f (g v) := by
  rw [modify, h]
  exact sumBy_insert_add h

/-- A change that the measure does not see. -/
theorem sumBy_modify (h : ∀ v, f (g v) = f v) :
    (m.modify k g).sumBy f = m.sumBy f := by
  unfold modify
  cases hk : m.get? k with
  | none => rfl
  | some v =>
    have := sumBy_insert_add (f := f) (v := g v) hk
    rw [h] at this
    exact Nat.add_right_cancel this

theorem sumBy_foldl_modify {β : Type*} {key : β → κ} {change : β → α → α}
    {l : List β} (h : ∀ b v, f (change b v) = f v) :
    (l.foldl (fun m b => m.modify (key b) (change b)) m).sumBy f = m.sumBy f := by
  induction l generalizing m with
  | nil => rfl
  | cons b rest ih => rw [List.foldl_cons, ih, sumBy_modify (h b)]

theorem sumBy_foldl_insert (hl : (l.map Prod.fst).Nodup)
    (hfresh : ∀ p ∈ l, m.get? p.1 = none) :
    (l.foldl (fun m p => m.insert p.1 p.2) m).sumBy f
      = (l.map fun p => f p.2).sum + m.sumBy f := by
  rw [sumBy_eq, ((foldl_insert_perm hl hfresh).map _).sum_eq, List.map_append, List.sum_append,
    ← sumBy_eq]

theorem le_sumBy (h : m.get? k = some v) : f v ≤ m.sumBy f := by
  rw [sumBy_eq_add_erase h]
  omega

end OrdMap
end Lib
