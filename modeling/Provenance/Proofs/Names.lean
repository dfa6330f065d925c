import Provenance.Names

/-!
# Values collected by name

The nodes and edges of a graph are collected by name: a list is run through, and every item
changes the value at a name of its own.  This module says what such a collection holds and in
which order.

Main results:

- Theorem `Names.ext`: two sets with the same names are the same value.
- Theorem `NameMap.mem_values`: the values listed are the values found.
- Theorem `NameMap.map_values`: values that carry their own name are listed in the order of
  the names.
- Theorem `NameMap.mem_names_alterAll`: a collection has the names of its items.
- Theorem `NameMap.find?_alterAll`: a value is made by the items of its name, in their order.
- Theorem `NameMap.alterAll_induction`: what every change keeps holds of all values collected.
- Theorem `NameMap.holds_alterAll`: a value holds what the items of its name have added.
- Theorem `NameMap.find?_ofList_of_mem`: pairs with different names are found again.
- Theorem `increasing_map_mergeSort`: sorting by different names lists them in increasing order.
- Theorem `flatMap_filter_key_perm`: groups by a key hold every item once.
-/

namespace Provenance

namespace Names

/-- Placing a name makes the list longer by one at most. -/
theorem length_place_le (x : String) (ys : List String) :
    (place x ys).length ≤ ys.length + 1 := by
  induction ys with
  | nil => simp [place]
  | cons y ys ih =>
      unfold place
      split
      · simp
      · split
        · simp
        · simpa using ih

theorem nodup_of_increasing {xs : List String} (h : xs.Pairwise (· < ·)) : xs.Nodup :=
  h.imp fun hlt => String.ne_of_lt hlt

/-- Two sets with the same names are the same value, since both list them in order. -/
theorem ext {s t : Names} (h : ∀ x, x ∈ s ↔ x ∈ t) : s = t := by
  have hperm : s.toList.Perm t.toList := by
    rw [List.perm_ext_iff_of_nodup (nodup_of_increasing s.increasing)
      (nodup_of_increasing t.increasing)]
    exact h
  have hlist : s.toList = t.toList := by
    refine List.Perm.eq_of_pairwise ?_ s.increasing t.increasing hperm
    intro x y _ _ hxy hyx
    exact absurd (String.lt_trans hxy hyx) (String.lt_irrefl x)
  cases s
  cases t
  cases hlist
  rfl

end Names

namespace NameMap

variable {α β : Type} {m : NameMap β}

/-! ## Entries, names and values -/

/-- The value listed with a name is the one found at the name. -/
theorem mem_entries {x : String} {b : β} : (x, b) ∈ m.entries ↔ m.find? x = some b := by
  constructor
  · intro h
    obtain ⟨before, after, hsplit⟩ := List.append_of_mem h
    have hincreasing := m.increasing
    rw [hsplit, List.map_append, List.pairwise_append] at hincreasing
    refine List.lookup_eq_some_iff.2 ⟨before, after, hsplit, ?_⟩
    intro p hp
    have hlt : p.1 < x := hincreasing.2.2 p.1 (List.mem_map_of_mem hp) x (by simp)
    have hne : x ≠ p.1 := by
      rintro rfl
      exact String.lt_irrefl _ hlt
    simpa using hne
  · intro h
    obtain ⟨before, after, hsplit, -⟩ := List.lookup_eq_some_iff.1 h
    simp [hsplit]

theorem mem_values {b : β} : b ∈ m.values ↔ ∃ x, m.find? x = some b := by
  simp [values, ← mem_entries]

theorem mem_names {x : String} : x ∈ m.names ↔ ∃ b, m.find? x = some b := by
  simp [Names.mem_def, names, ← mem_entries]

/-- Values that carry their own name are listed in the order of the names. -/
theorem map_values {f : β → String} (h : ∀ x b, m.find? x = some b → f b = x) :
    m.values.map f = m.names.toList := by
  unfold values names
  rw [List.map_map]
  apply List.map_congr_left
  rintro ⟨x, b⟩ hentry
  exact h x b (mem_entries.1 hentry)

/-- Values that carry their own name are listed in increasing order of it. -/
theorem increasing_map_values {f : β → String} (h : ∀ x b, m.find? x = some b → f b = x) :
    (m.values.map f).Pairwise (· < ·) := by
  rw [map_values h]
  exact m.names.increasing

theorem find?_mapValues {γ : Type} (f : β → γ) (x : String) :
    (m.mapValues f).find? x = (m.find? x).map f := by
  show (m.entries.map fun e => (e.1, f e.2)).lookup x = (m.entries.lookup x).map f
  induction m.entries with
  | nil => rfl
  | cons e entries ih =>
      rw [List.map_cons, lookup_entry, lookup_entry, ih]
      split <;> rfl

theorem length_values_alter_le (x : String) (f : Option β → β) :
    (m.alter x f).values.length ≤ m.values.length + 1 := by
  have hkeys := congrArg List.length (keys_alterList x f m.entries)
  have hplace := Names.length_place_le x (m.entries.map Prod.fst)
  simp only [List.length_map] at hkeys hplace
  simpa [values, alter, hkeys] using hplace

/-! ## Collections -/

/-- Change the value at the name of every item of a list, one after the other. -/
def alterAll (m : NameMap β) (key : α → String) (f : α → Option β → β) (xs : List α) :
    NameMap β :=
  xs.foldl (fun m x => m.alter (key x) (f x)) m

variable {key : α → String} {f : α → Option β → β}

/-- A collection has the names of its items beside those from before. -/
theorem mem_names_alterAll {xs : List α} {z : String} :
    z ∈ (m.alterAll key f xs).names ↔ z ∈ m.names ∨ ∃ x ∈ xs, key x = z := by
  induction xs generalizing m with
  | nil => simp [alterAll]
  | cons x xs ih =>
      have hstep : m.alterAll key f (x :: xs) = (m.alter (key x) (f x)).alterAll key f xs := rfl
      rw [hstep, ih, names_alter, Names.mem_insert]
      grind

/-- Which names a collection has depends on the members of the list and not on their order. -/
theorem names_alterAll_congr {xs ys : List α} (h : ∀ x, x ∈ xs ↔ x ∈ ys) :
    (m.alterAll key f xs).names = (m.alterAll key f ys).names := by
  apply Names.ext
  intro z
  simp only [mem_names_alterAll, h]

/-- The value collected at a name is what the items of this name make of the value from before,
one after the other; all other items pass it by. -/
theorem find?_alterAll (xs : List α) (z : String) :
    (m.alterAll key f xs).find? z =
      (xs.filter fun x => key x == z).foldl (fun old x => some (f x old)) (m.find? z) := by
  induction xs generalizing m with
  | nil => rfl
  | cons x xs ih =>
      have hstep : m.alterAll key f (x :: xs) = (m.alter (key x) (f x)).alterAll key f xs := rfl
      rw [hstep, ih, find?_alter]
      by_cases hz : z = key x
      · simp [hz]
      · have hz' : key x ≠ z := fun heq => hz heq.symm
        simp [hz, hz']

/-- A property of names and values that holds of every new value, and that every change of an
old value keeps, holds of all values collected. -/
theorem alterAll_induction {P : String → β → Prop} {xs : List α}
    (hnew : ∀ x ∈ xs, P (key x) (f x none))
    (hold : ∀ x ∈ xs, ∀ b, P (key x) b → P (key x) (f x (some b)))
    (hm : ∀ z b, m.find? z = some b → P z b) {z : String} {b : β}
    (h : (m.alterAll key f xs).find? z = some b) : P z b := by
  induction xs generalizing m with
  | nil => exact hm z b h
  | cons x xs ih =>
      apply ih (fun y hy => hnew y (List.mem_cons_of_mem x hy))
        (fun y hy => hold y (List.mem_cons_of_mem x hy)) ?_ h
      intro w c hw
      rw [find?_alter] at hw
      split at hw
      · rename_i heq
        subst heq
        cases hw
        cases hfind : m.find? (key x) with
        | none => exact hnew x List.mem_cons_self
        | some old => exact hold x List.mem_cons_self old (hm _ _ hfind)
      · exact hm w c hw

/-- If every item adds something of its own to what the value at its name holds, then a value
holds what it held before and what the items of its name have added. -/
theorem holds_alterAll {γ : Type} (holds : β → γ → Prop) (adds : α → γ → Prop)
    (hstep : ∀ x old c, holds (f x old) c ↔ (∃ b, old = some b ∧ holds b c) ∨ adds x c)
    {xs : List α} {z : String} {b : β} (h : (m.alterAll key f xs).find? z = some b) (c : γ) :
    holds b c ↔
      (∃ b', m.find? z = some b' ∧ holds b' c) ∨ ∃ x ∈ xs, key x = z ∧ adds x c := by
  -- the map changes with every item, so what it holds at the name so far is part of the statement
  induction xs generalizing m with
  | nil =>
      have hfind : m.find? z = some b := h
      simp [hfind]
  | cons x xs ih =>
      have hxs := ih (m := m.alter (key x) (f x)) h
      rw [find?_alter] at hxs
      rw [hxs]
      by_cases hz : z = key x
      · simp [hz, hstep, or_assoc]
      · have hz' : key x ≠ z := fun heq => hz heq.symm
        simp [hz, hz']

/-- There are no more values than items. -/
theorem length_values_alterAll_le (xs : List α) :
    (m.alterAll key f xs).values.length ≤ m.values.length + xs.length := by
  induction xs generalizing m with
  | nil => exact Nat.le_refl _
  | cons x xs ih =>
      have hstep := length_values_alter_le (m := m) (key x) (f x)
      calc
        (m.alterAll key f (x :: xs)).values.length ≤
            (m.alter (key x) (f x)).values.length + xs.length := ih
        _ ≤ m.values.length + (x :: xs).length := by
          rw [List.length_cons]
          omega

/-! ## Assigning pairs one after the other -/

theorem mem_names_ofList {es : List (String × β)} {x : String} :
    x ∈ (ofList es).names ↔ x ∈ es.map Prod.fst := by
  have hcollected : ofList es = empty.alterAll Prod.fst (fun e _ => e.2) es := rfl
  have hempty : x ∉ (empty : NameMap β).names := Names.not_mem_empty
  rw [hcollected, mem_names_alterAll, List.mem_map]
  simp only [hempty, false_or]

/-- Setting other names leaves the value of a name alone. -/
theorem find?_foldl_set_of_not_mem {es : List (String × β)} {x : String}
    (h : x ∉ es.map Prod.fst) :
    (es.foldl (fun m e => m.set e.1 e.2) m).find? x = m.find? x := by
  induction es generalizing m with
  | nil => rfl
  | cons e es ih =>
      rw [List.map_cons, List.mem_cons, not_or] at h
      rw [List.foldl_cons, ih h.2, set, find?_alter, if_neg h.1]

/-- A pair is found again if no other pair has its name. -/
theorem find?_ofList_of_mem {es : List (String × β)} (hnodup : (es.map Prod.fst).Nodup)
    {x : String} {b : β} (h : (x, b) ∈ es) : (ofList es).find? x = some b := by
  -- what was assigned before does not matter, so start from any map
  unfold ofList
  generalize (empty : NameMap β) = m
  induction es generalizing m with
  | nil => contradiction
  | cons e es ih =>
      rw [List.map_cons, List.nodup_cons] at hnodup
      rw [List.foldl_cons]
      rcases List.mem_cons.1 h with rfl | h
      · rw [find?_foldl_set_of_not_mem hnodup.1, set, find?_alter, if_pos rfl]
      · exact ih hnodup.2 h _

end NameMap

/-! ## Sorting by name -/

/-- Items whose ids are made of their names have different names if their ids are different. -/
theorem nodup_map_name {α : Type} {id name : α → String} {make : String → String} {xs : List α}
    (hid : ∀ x ∈ xs, id x = make (name x)) (hnodup : (xs.map id).Nodup) :
    (xs.map name).Nodup := by
  refine List.pairwise_map.2 ((List.pairwise_map.1 hnodup).imp_of_mem ?_)
  intro x y hx hy hne hname
  exact hne (by rw [hid x hx, hid y hy, hname])

/-- Sorting by different names lists the names in increasing order. -/
theorem increasing_map_mergeSort {α : Type} {key : α → String} {xs : List α}
    (hnodup : (xs.map key).Nodup) :
    ((xs.mergeSort fun a b => decide (key a ≤ key b)).map key).Pairwise (· < ·) := by
  have hsorted : (xs.mergeSort fun a b => decide (key a ≤ key b)).Pairwise
      fun a b => decide (key a ≤ key b) = true := by
    apply List.pairwise_mergeSort
    · intro a b c hab hbc
      rw [decide_eq_true_eq] at hab hbc ⊢
      exact String.le_trans hab hbc
    · intro a b
      simpa using String.le_total (key a) (key b)
  have hne : ((xs.mergeSort fun a b => decide (key a ≤ key b)).map key).Nodup :=
    ((List.mergeSort_perm xs _).map key).nodup_iff.2 hnodup
  refine List.pairwise_map.2 ((hsorted.and (List.pairwise_map.1 hne)).imp ?_)
  rintro a b ⟨hle, hne⟩
  exact Std.lt_of_le_of_ne (of_decide_eq_true hle) hne

/-! ## Groups -/

/-- Sorting the items of a list into groups by a key, with one group for each key, loses none and
doubles none. -/
theorem flatMap_filter_key_perm {α κ : Type} [BEq κ] [LawfulBEq κ] (key : α → κ) {keys : List κ}
    (hnodup : keys.Nodup) {xs : List α} (hcovered : ∀ x ∈ xs, key x ∈ keys) :
    (keys.flatMap fun k => xs.filter fun x => key x == k).Perm xs := by
  -- the first group is taken out, and the other keys are those of the rest
  induction keys generalizing xs with
  | nil =>
      have hempty : xs = [] := by
        apply List.eq_nil_iff_forall_not_mem.2
        intro x hx
        exact absurd (hcovered x hx) List.not_mem_nil
      rw [hempty]
      rfl
  | cons k keys ih =>
      rw [List.nodup_cons] at hnodup
      have hothers : (keys.flatMap fun k' => xs.filter fun x => key x == k') =
          keys.flatMap fun k' =>
            (xs.filter fun x => !(key x == k)).filter fun x => key x == k' := by
        rw [List.flatMap_def, List.flatMap_def]
        congr 1
        apply List.map_congr_left
        intro k' hk'
        rw [List.filter_filter]
        apply List.filter_congr
        intro x _
        by_cases hx : key x = k'
        · have hne : k' ≠ k := by
            rintro rfl
            exact hnodup.1 hk'
          simp [hx, hne]
        · simp [hx]
      have hrest : ∀ x ∈ xs.filter fun x => !(key x == k), key x ∈ keys := by
        intro x hx
        rw [List.mem_filter] at hx
        have hne : key x ≠ k := by simpa using hx.2
        exact (List.mem_cons.1 (hcovered x hx.1)).resolve_left hne
      rw [List.flatMap_cons, hothers]
      exact ((ih hnodup.2 hrest).append_left _).trans (List.filter_append_perm _ xs)

end Provenance
