/-!
# Maps from keys to values

A `GroupMap` lists the entries of a finite map in some order. Keys are compared with `==`, which
may hold of distinguishable keys; each class of equal keys has at most one entry, and its key is
the representative of the class.
-/

namespace Groupwise

variable {K A B : Type} [BEq K]

namespace Entries

/-- No two entries have equal keys. -/
abbrev Distinct (es : List (K × A)) : Prop := es.Pairwise fun e f => (e.1 == f.1) = false

/-- The entry whose key equals `k`. -/
def find? (es : List (K × A)) (k : K) : Option (K × A) := es.find? fun e => e.1 == k

/-- The value of the entry whose key equals `k` is changed, its key stays. -/
def modify (k : K) (f : A → A) : List (K × A) → List (K × A)
  | [] => []
  | e :: es => if e.1 == k then (e.1, f e.2) :: es else e :: modify k f es

/-- The entries whose keys do not equal `k`. -/
def erase (es : List (K × A)) (k : K) : List (K × A) := es.filter fun e => !(e.1 == k)

/-- Entries in the order of their keys; entries of equal keys keep their order. -/
def sorted {K A : Type} [Ord K] (es : List (K × A)) : List (K × A) :=
  es.mergeSort fun e f => (compare e.1 f.1).isLE

theorem keys_modify (k : K) (f : A → A) (es : List (K × A)) :
    (modify k f es).map Prod.fst = es.map Prod.fst := by
  induction es with
  | nil => rfl
  | cons e es ih =>
    simp only [modify]
    split <;> simp [ih]

theorem distinct_iff_keys {es : List (K × A)} :
    Distinct es ↔ (es.map Prod.fst).Pairwise fun k l => (k == l) = false := by
  simp [Distinct, List.pairwise_map]

theorem Distinct.modify {es : List (K × A)} (h : Distinct es) (k : K) (f : A → A) :
    Distinct (modify k f es) := by
  rw [distinct_iff_keys, keys_modify]
  exact distinct_iff_keys.1 h

theorem Distinct.erase {es : List (K × A)} (h : Distinct es) (k : K) :
    Distinct (erase es k) := h.filter _

theorem find?_eq_none {es : List (K × A)} {k : K} :
    find? es k = none ↔ ∀ e ∈ es, (e.1 == k) = false := by
  simp [find?]

theorem find?_erase_self (es : List (K × A)) (k : K) : find? (erase es k) k = none := by
  simp [find?_eq_none, erase]

theorem Distinct.snoc {es : List (K × A)} (h : Distinct es) {k : K} (a : A)
    (hk : find? es k = none) : Distinct (es ++ [(k, a)]) := by
  rw [find?_eq_none] at hk
  simpa [Distinct, List.pairwise_append] using ⟨h, fun x y hxy => hk (x, y) hxy⟩

end Entries

/-- A finite map with one entry for each class of equal keys. -/
structure GroupMap (K A : Type) [BEq K] where
  entries : List (K × A)
  distinct : Entries.Distinct entries

namespace GroupMap

/-! ### Looking up -/

instance : EmptyCollection (GroupMap K A) := ⟨⟨[], .nil⟩⟩

instance : Inhabited (GroupMap K A) := ⟨∅⟩

def size (m : GroupMap K A) : Nat := m.entries.length

def keys (m : GroupMap K A) : List K := m.entries.map Prod.fst

/-- The entry of the class of `k`. -/
def find? (m : GroupMap K A) (k : K) : Option (K × A) := Entries.find? m.entries k

/-- The value of the class of `k`. -/
def get? (m : GroupMap K A) (k : K) : Option A := (m.find? k).map Prod.snd

def contains (m : GroupMap K A) (k : K) : Bool := (m.find? k).isSome

/-! ### Changing -/

/-- The value of `k` is changed; a key without an entry is left without one. -/
def modify (m : GroupMap K A) (k : K) (f : A → A) : GroupMap K A :=
  ⟨Entries.modify k f m.entries, m.distinct.modify k f⟩

def erase (m : GroupMap K A) (k : K) : GroupMap K A :=
  ⟨Entries.erase m.entries k, m.distinct.erase k⟩

/-- A new entry, unless the map has one for the key. -/
def insertNew (m : GroupMap K A) (k : K) (a : A) : GroupMap K A :=
  if h : (m.find? k).isSome then m
  else ⟨m.entries ++ [(k, a)], m.distinct.snoc a (Option.not_isSome_iff_eq_none.1 h)⟩

/-- The value of `k` is `a` from now on; a key that is there stays as it is. -/
def insert (m : GroupMap K A) (k : K) (a : A) : GroupMap K A :=
  if m.contains k then m.modify k fun _ => a else m.insertNew k a

/-- The entry of `k` is replaced, key and value. -/
def replace (m : GroupMap K A) (k : K) (a : A) : GroupMap K A := (m.erase k).insertNew k a

/-- All values are changed, the keys stay. -/
def mapValues (f : A → B) (m : GroupMap K A) : GroupMap K B :=
  ⟨m.entries.map fun e => (e.1, f e.2), by
    rw [Entries.distinct_iff_keys, List.map_map]
    exact Entries.distinct_iff_keys.1 m.distinct⟩

/-- The map of the entries inserted one by one. -/
def ofList (es : List (K × A)) : GroupMap K A := es.foldl (fun m e => m.insert e.1 e.2) ∅

/-! ### Laws -/

@[simp] theorem entries_empty : (∅ : GroupMap K A).entries = [] := rfl

@[simp] theorem size_empty : (∅ : GroupMap K A).size = 0 := rfl

@[simp] theorem keys_modify (m : GroupMap K A) (k : K) (f : A → A) :
    (m.modify k f).keys = m.keys := Entries.keys_modify k f m.entries

@[simp] theorem keys_mapValues (f : A → B) (m : GroupMap K A) : (m.mapValues f).keys = m.keys := by
  simp [keys, mapValues, Function.comp_def]

theorem entries_insertNew {m : GroupMap K A} {k : K} (h : m.find? k = none) (a : A) :
    (m.insertNew k a).entries = m.entries ++ [(k, a)] := by
  simp [insertNew, h]

theorem entries_replace (m : GroupMap K A) (k : K) (a : A) :
    (m.replace k a).entries = Entries.erase m.entries k ++ [(k, a)] :=
  entries_insertNew (m := m.erase k) (Entries.find?_erase_self m.entries k) a

end GroupMap

end Groupwise
