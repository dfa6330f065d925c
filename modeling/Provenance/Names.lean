/-!
# Sorted names

Everything the viewer lists by name is listed in code point order without repetition: tables of a
zone, sources of a table, nodes of a graph.  `Names` is a finite set of names in that order and
`NameMap` assigns a value to each of finitely many names.  Both keep the order as part of the
type, so that two sets with the same members are the same value.
-/

namespace Provenance

/-! ## Sets of names -/

/-- A finite set of names, listed in increasing order. -/
structure Names where
  toList : List String
  increasing : toList.Pairwise (· < ·)
  deriving DecidableEq

namespace Names

/-- No names. -/
def empty : Names where
  toList := []
  increasing := .nil

instance : Inhabited Names := ⟨empty⟩

instance : Membership String Names := ⟨fun s x => x ∈ s.toList⟩

theorem mem_def {s : Names} {x : String} : x ∈ s ↔ x ∈ s.toList := Iff.rfl

instance (x : String) (s : Names) : Decidable (x ∈ s) :=
  inferInstanceAs (Decidable (x ∈ s.toList))

/-- Place a name into an increasing list, unless it is there already. -/
def place (x : String) : List String → List String
  | [] => [x]
  | y :: ys => if x < y then x :: y :: ys else if x = y then y :: ys else y :: place x ys

/-- Placing a name adds it and nothing else. -/
@[simp]
theorem mem_place {x z : String} {ys : List String} : z ∈ place x ys ↔ z = x ∨ z ∈ ys := by
  induction ys with
  | nil => simp [place]
  | cons y ys ih => grind [place]

/-- Placing a name keeps the list in increasing order. -/
theorem place_increasing {x : String} {ys : List String} (h : ys.Pairwise (· < ·)) :
    (place x ys).Pairwise (· < ·) := by
  induction ys with
  | nil => simp [place]
  | cons y ys ih =>
    rw [List.pairwise_cons] at h
    unfold place
    split
    · rename_i hxy
      refine List.pairwise_cons.2 ⟨?_, List.pairwise_cons.2 h⟩
      intro z hz
      rcases List.mem_cons.1 hz with rfl | hz
      · exact hxy
      · exact String.lt_trans hxy (h.1 z hz)
    · split
      · exact List.pairwise_cons.2 h
      · rename_i hxy hne
        refine List.pairwise_cons.2 ⟨?_, ih h.2⟩
        intro z hz
        rcases mem_place.1 hz with rfl | hz
        · rcases Std.lt_trichotomy z y with h' | h' | h'
          · exact absurd h' hxy
          · exact absurd h' hne
          · exact h'
        · exact h.1 z hz

/-- Add one name. -/
def insert (s : Names) (x : String) : Names where
  toList := place x s.toList
  increasing := place_increasing s.increasing

@[simp]
theorem mem_insert {s : Names} {x z : String} : z ∈ s.insert x ↔ z = x ∨ z ∈ s :=
  mem_place

@[simp]
theorem not_mem_empty {x : String} : ¬ x ∈ empty :=
  List.not_mem_nil

/-- The set of the names in a list. -/
def ofList (xs : List String) : Names :=
  xs.foldl insert empty

/-- All names of either set. -/
def union (s t : Names) : Names :=
  t.toList.foldl insert s

/-- Adding names one after the other adds all of them. -/
theorem mem_foldl_insert {xs : List String} {s : Names} {z : String} :
    z ∈ xs.foldl insert s ↔ z ∈ xs ∨ z ∈ s := by
  induction xs generalizing s with
  | nil => simp
  | cons x xs ih => simp [ih]; grind

@[simp]
theorem mem_ofList {xs : List String} {z : String} : z ∈ ofList xs ↔ z ∈ xs := by
  simp [ofList, mem_foldl_insert]

@[simp]
theorem mem_union {s t : Names} {z : String} : z ∈ s.union t ↔ z ∈ t ∨ z ∈ s :=
  mem_foldl_insert

/-- How many names there are. -/
def size (s : Names) : Nat := s.toList.length

/-- Whether there are no names. -/
def isEmpty (s : Names) : Bool := s.toList.isEmpty

/-- Whether a name is in the set. -/
def contains (s : Names) (x : String) : Bool := decide (x ∈ s)

@[simp]
theorem contains_eq_true {s : Names} {x : String} : s.contains x = true ↔ x ∈ s := by
  simp [contains]

@[simp]
theorem contains_eq_false {s : Names} {x : String} : s.contains x = false ↔ ¬ x ∈ s := by
  simp [contains]

/-- The least name, if there is one. -/
def first? (s : Names) : Option String := s.toList.head?

theorem mem_of_first? {s : Names} {x : String} (h : s.first? = some x) : x ∈ s :=
  List.mem_of_head? h

/-- A set that is not empty has a least name. -/
theorem exists_first? {s : Names} (h : s.isEmpty = false) : ∃ x, s.first? = some x := by
  obtain ⟨xs, hxs⟩ := s
  cases xs with
  | nil => contradiction
  | cons x xs => exact ⟨x, rfl⟩

/-- Keep the names with a property. -/
def filter (s : Names) (p : String → Bool) : Names where
  toList := s.toList.filter p
  increasing := s.increasing.filter p

end Names

/-! ## Values by name -/

/-- Values assigned to finitely many names, listed in increasing order of the names. -/
structure NameMap (β : Type) where
  entries : List (String × β)
  increasing : (entries.map Prod.fst).Pairwise (· < ·)

namespace NameMap

variable {β γ : Type}

/-- Nothing is assigned. -/
def empty : NameMap β where
  entries := []
  increasing := .nil

instance : Inhabited (NameMap β) := ⟨empty⟩

instance [DecidableEq β] : DecidableEq (NameMap β) := fun m n =>
  decidable_of_iff (m.entries = n.entries) <| by
    constructor
    · cases m; cases n; simp
    · rintro rfl; rfl

/-- Change the value at one place of an increasing list of entries, making the place if it is
missing. -/
def alterList (x : String) (f : Option β → β) : List (String × β) → List (String × β)
  | [] => [(x, f none)]
  | (y, b) :: rest =>
    if x < y then (x, f none) :: (y, b) :: rest
    else if x = y then (y, f (some b)) :: rest
    else (y, b) :: alterList x f rest

/-- Altering a value places its name. -/
theorem keys_alterList (x : String) (f : Option β → β) (es : List (String × β)) :
    (alterList x f es).map Prod.fst = Names.place x (es.map Prod.fst) := by
  induction es with
  | nil => rfl
  | cons e es ih =>
    obtain ⟨y, b⟩ := e
    simp only [alterList, List.map_cons, Names.place]
    split
    · rfl
    · split
      · rfl
      · simp [ih]

/-- Change the value at a name: `f` is given the value so far, if there is one. -/
def alter (m : NameMap β) (x : String) (f : Option β → β) : NameMap β where
  entries := alterList x f m.entries
  increasing := by
    rw [keys_alterList]
    exact Names.place_increasing m.increasing

/-- Assign a value to a name, in place of any value so far. -/
def set (m : NameMap β) (x : String) (b : β) : NameMap β := m.alter x fun _ => b

/-- Assign a value to a name that has none; a value so far stays. -/
def setNew (m : NameMap β) (x : String) (b : β) : NameMap β := m.alter x fun old => old.getD b

/-- The value of a name. -/
def find? (m : NameMap β) (x : String) : Option β := m.entries.lookup x

/-- Whether a name has a value. -/
def contains (m : NameMap β) (x : String) : Bool := (m.find? x).isSome

/-- The names that have a value. -/
def names (m : NameMap β) : Names where
  toList := m.entries.map Prod.fst
  increasing := m.increasing

/-- The values in the order of their names. -/
def values (m : NameMap β) : List β := m.entries.map Prod.snd

/-- How many names have a value. -/
def size (m : NameMap β) : Nat := m.entries.length

/-- Whether nothing is assigned. -/
def isEmpty (m : NameMap β) : Bool := m.entries.isEmpty

/-- The least name that has a value. -/
def firstName? (m : NameMap β) : Option String := m.entries.head?.map Prod.fst

/-- Assign the pairs of a list one after the other. -/
def ofList (es : List (String × β)) : NameMap β :=
  es.foldl (fun m e => m.set e.1 e.2) empty

/-- Apply a function to every value. -/
def mapValues (m : NameMap β) (f : β → γ) : NameMap γ where
  entries := m.entries.map fun e => (e.1, f e.2)
  increasing := by
    have h : (m.entries.map fun e => (e.1, f e.2)).map Prod.fst = m.entries.map Prod.fst := by
      simp
    rw [h]
    exact m.increasing

@[simp]
theorem find?_empty (x : String) : (empty : NameMap β).find? x = none := rfl

theorem lookup_entry (z y : String) (b : β) (es : List (String × β)) :
    ((y, b) :: es).lookup z = if z = y then some b else es.lookup z := by
  by_cases h : z = y
  · rw [if_pos h, h, List.lookup_cons_self]
  · have h' : (z == y) = false := beq_eq_false_iff_ne.2 h
    rw [if_neg h, List.lookup_cons, h']

/-- A name before the first one of the list has no value. -/
theorem lookup_none_of_lt {x y : String} {es : List (String × β)} (hxy : x < y)
    (h : ∀ z ∈ es.map Prod.fst, y < z) : es.lookup x = none := by
  induction es with
  | nil => rfl
  | cons e es ih =>
    obtain ⟨z, b⟩ := e
    have hyz : y < z := h z (by simp)
    have hne : x ≠ z := by
      rintro rfl
      exact String.lt_irrefl _ (String.lt_trans hxy hyz)
    rw [lookup_entry, if_neg hne]
    exact ih fun w hw => h w (List.mem_cons_of_mem _ hw)

/-- Altering a value changes no other one. -/
theorem lookup_alterList (x z : String) (f : Option β → β) {es : List (String × β)}
    (h : (es.map Prod.fst).Pairwise (· < ·)) :
    (alterList x f es).lookup z = if z = x then some (f (es.lookup x)) else es.lookup z := by
  induction es with
  | nil => simp [alterList, lookup_entry]
  | cons e es ih =>
    obtain ⟨y, b⟩ := e
    rw [List.map_cons, List.pairwise_cons] at h
    simp only [alterList]
    split
    · rename_i hxy
      have hne : x ≠ y := by
        rintro rfl
        exact String.lt_irrefl _ hxy
      have hnone := lookup_none_of_lt hxy h.1
      simp [lookup_entry, hne, hnone]
    · split
      · rename_i hxy
        subst hxy
        simp only [lookup_entry, if_true]
        split <;> rfl
      · rename_i hxy hne
        simp only [lookup_entry, ih h.2]
        grind

/-- The least name that has a value has one. -/
theorem contains_of_firstName? {m : NameMap β} {x : String} (h : m.firstName? = some x) :
    m.contains x = true := by
  obtain ⟨entries, hentries⟩ := m
  cases entries with
  | nil => contradiction
  | cons e entries =>
    obtain ⟨y, b⟩ := e
    cases h
    rw [contains, find?, List.lookup_cons_self]
    rfl

/-- Changing the value at a name is seen at that name only. -/
theorem find?_alter (m : NameMap β) (x z : String) (f : Option β → β) :
    (m.alter x f).find? z = if z = x then some (f (m.find? x)) else m.find? z :=
  lookup_alterList x z f m.increasing

/-- Altering a value adds its name. -/
@[simp]
theorem names_alter (m : NameMap β) (x : String) (f : Option β → β) :
    (m.alter x f).names = m.names.insert x := by
  simp [names, alter, Names.insert, keys_alterList]

end NameMap

end Provenance
