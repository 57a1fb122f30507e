import Groupwise.Proofs.Keeping
import Groupwise.Proofs.Tabulating

/-!
# Tables survive reading and writing

What is read from a table fits one: names were trimmed, prices and quantities were checked, and all
positions of a product name share one product. So a table that was read is read again after it was
written, and a table that was written is read as it was (`PositionTable.read_written`).
-/

namespace Groupwise

open Csv Text

/-- The row fits a table, its price apart. -/
structure PositionRow.Tabular (row : PositionRow Float) : Prop where
  account : Trimmed row.account
  product : Trimmed row.product
  category : Trimmed row.category
  quantity : row.quantity < quantityBound

/-- The cells that have been read fit a table. -/
structure Cells.Tabular (cells : Cells) : Prop where
  account : ∀ s ∈ cells.account, Trimmed s
  product : ∀ s ∈ cells.product, Trimmed s
  category : ∀ s ∈ cells.category, Trimmed s
  quantity : ∀ n ∈ cells.quantity, n < quantityBound

namespace Cells

variable {cells cells' : Cells} {s : String}

lemma tabular_empty : Tabular {} :=
  ⟨by simp, by simp, by simp, by simp⟩

lemma lt_of_readQuantity {n : Nat} (h : readQuantity s = .ok n) : n < quantityBound := by
  rw [readQuantity] at h
  split at h <;> exact Literal.nat_lt (by decide) h

lemma Tabular.put {c : PositionColumn} (h : cells.Tabular) (hs : Trimmed s)
    (hput : cells.put c s = .ok cells') : cells'.Tabular := by
  have hsome : ∀ t ∈ some s, Trimmed t := by
    intro t ht
    exact Option.some.inj ht ▸ hs
  cases c with
  | account => cases hput; exact { h with account := hsome }
  | product => cases hput; exact { h with product := hsome }
  | category => cases hput; exact { h with category := hsome }
  | price =>
    simp only [Cells.put] at hput
    split at hput
    · cases hput; exact { h with }
    · cases hput
  | quantity =>
    simp only [Cells.put] at hput
    split at hput
    · next n hn =>
      cases hput
      refine { h with quantity := ?_ }
      intro m hm
      exact Option.some.inj hm ▸ lt_of_readQuantity hn
    · cases hput

lemma Tabular.read {texts : List (String × String)} {i : Nat} (h : cells.Tabular)
    (htexts : ∀ t ∈ texts, Trimmed t.2) (hread : Cells.read i cells texts = .ok cells') :
    cells'.Tabular := by
  induction texts generalizing i cells with
  | nil => cases hread; exact h
  | cons t texts ih =>
    obtain ⟨name, text⟩ := t
    have htail : ∀ t ∈ texts, Trimmed t.2 := fun t ht => htexts t (List.mem_cons_of_mem _ ht)
    rw [Cells.read] at hread
    split at hread
    · exact ih h htail hread
    · split_ifs at hread
      split at hread
      · next hput => exact ih (h.put (htexts _ List.mem_cons_self) hput) htail hread
      · cases hread

lemma Tabular.row {row : PositionRow Float} (h : cells.Tabular) (hrow : cells.row = .ok row) :
    row.Tabular := by
  obtain ⟨account, product, category, price, quantity⟩ := cells
  match account, product, category, price, quantity, hrow with
  | some _, some _, some _, some _, some _, rfl =>
    exact ⟨h.account _ rfl, h.product _ rfl, h.category _ rfl, h.quantity _ rfl⟩

end Cells

lemma tabular_of_readPositionRow {header cells : List String} {row : PositionRow Float}
    (hcells : ∀ s ∈ cells, Trimmed s) (h : readPositionRow header cells = .ok row) :
    row.Tabular := by
  rw [readPositionRow] at h
  obtain ⟨result, hread, hrow⟩ := exists_of_bind_eq_ok h
  refine (Cells.tabular_empty.read ?_ hread).row hrow
  intro t ht
  exact hcells t.2 (List.of_mem_zip ht).2

/-! ### Products -/

/-- Products that fit a table, one of each name. -/
structure Catalogue (products : List (Product Float)) : Prop where
  tabular : ∀ e ∈ products, e.Tabular
  distinct : (products.map Product.name).Nodup

namespace Catalogue

variable {products : List (Product Float)} {keys keys' : PositionKeys Float}
  {row : PositionRow Float} {p : Position Float}

lemma eq_of_name_eq (h : Catalogue products) {e f : Product Float} (he : e ∈ products)
    (hf : f ∈ products) (hname : e.name = f.name) : e = f :=
  List.inj_on_of_nodup_map h.distinct he hf hname

lemma tabular_described (hrow : row.Tabular) (hprice : row.hasGoodPrice = true) :
    row.described.Tabular := by
  obtain ⟨hfinite, hnonneg⟩ := PositionTable.hasGoodPrice_iff.1 hprice
  exact ⟨hrow.product, hrow.category, hfinite, hnonneg⟩

lemma admitted (h : Catalogue keys.products.entries) (hrow : row.Tabular)
    (hp : keys.Admitted row p keys') :
    Catalogue keys'.products.entries ∧ p.product ∈ keys'.products.entries ∧
      keys.products.entries ⊆ keys'.products.entries := by
  rcases hp.product with ⟨hmem, hsame⟩ | ⟨hnew, hproduct, happend⟩
  · rw [hsame]
    exact ⟨h, hmem, List.Subset.refl _⟩
  · rw [happend]
    refine ⟨⟨?_, ?_⟩, by simp, List.subset_append_left _ _⟩
    · intro e he
      rcases List.mem_append.1 he with he | he
      · exact h.tabular e he
      · rw [List.mem_singleton.1 he, hproduct]
        exact tabular_described hrow hp.price
    · rw [List.map_append, List.map_singleton, List.nodup_append]
      refine ⟨h.distinct, List.nodup_singleton _, ?_⟩
      intro n hn m hm
      obtain ⟨e, he, rfl⟩ := List.mem_map.1 hn
      rw [List.mem_singleton.1 hm, hp.name]
      exact hnew e he

end Catalogue

/-! ### Tables -/

namespace PositionTable

variable {header : List String} {keys keys' : PositionKeys Float} {r : Record} {rs : List Record}
  {ps qs : List (Position Float)}

lemma admitted_of_readRecord {q : PooledPosition Float}
    (h : readRecord header keys r = .ok (q, keys')) :
    ∃ row : PositionRow Float, row.Tabular ∧ keys.Admitted row q.position keys' := by
  rw [readRecord] at h
  split at h
  · cases h
  · next texts htexts =>
    split at h
    · cases h
    · next row hrow =>
      split at h
      · cases h
      · next result hresult =>
        cases h
        exact ⟨row, tabular_of_readPositionRow (trimmed_of_rowTexts htexts) hrow,
          PositionKeys.admitted_of_ok hresult⟩

/-- All products that are read belong to one catalogue: the pool at the end, which keeps what it
once holds. -/
lemma exists_catalogue {qs : List (PooledPosition Float)} (hkeys : Catalogue keys.products.entries)
    (h : readRecords header keys rs = .ok qs) :
    ∃ products, Catalogue products ∧ keys.products.entries ⊆ products ∧
      ∀ q ∈ qs, q.position.Tabular ∧ q.position.product ∈ products := by
  induction rs generalizing keys qs with
  | nil =>
    cases h
    exact ⟨_, hkeys, List.Subset.refl _, by simp⟩
  | cons r rs ih =>
    rw [readRecords] at h
    split at h
    · cases h
    · next q keys' hread =>
      obtain ⟨qs, hrest, rfl⟩ := exists_of_map_eq_ok h
      obtain ⟨row, hrow, hadmitted⟩ := admitted_of_readRecord hread
      obtain ⟨hcatalogue, hmem, hsub⟩ := hkeys.admitted hrow hadmitted
      obtain ⟨products, hproducts, hsub', hqs⟩ := ih hcatalogue hrest
      refine ⟨products, hproducts, List.Subset.trans hsub hsub', ?_⟩
      intro q' hq'
      rcases List.mem_cons.1 hq' with rfl | hq'
      · refine ⟨⟨?_, hproducts.tabular _ (hsub' hmem), ?_⟩, hsub' hmem⟩
        · rw [hadmitted.account]
          exact hrow.account
        · rw [hadmitted.quantity]
          exact hrow.quantity
      · exact hqs q' hq'

lemma exists_catalogue_of_readPooled {bytes : List UInt8} {qs : List (PooledPosition Float)}
    (h : readPooled bytes = .ok qs) :
    ∃ products, Catalogue products ∧
      ∀ q ∈ qs, q.position.Tabular ∧ q.position.product ∈ products := by
  have hempty : Catalogue (PositionKeys.empty (V := Float)).products.entries :=
    ⟨by simp [PositionKeys.empty, KeyPool.empty], by simp [PositionKeys.empty, KeyPool.empty]⟩
  rw [readPooled] at h
  split at h
  · cases h
    exact ⟨_, hempty, by simp⟩
  · split at h
    · cases h
    · obtain ⟨products, hproducts, -, hqs⟩ := exists_catalogue hempty h
      exact ⟨products, hproducts, hqs⟩

/-- What is read fits a table, and positions of one product name share the product. -/
lemma tabular_of_read {bytes : List UInt8} (h : read bytes = .ok ps) :
    (∀ p ∈ ps, p.Tabular) ∧ ConsistentProducts ps := by
  obtain ⟨qs, hpooled, rfl⟩ := exists_of_map_eq_ok h
  obtain ⟨products, hproducts, hqs⟩ := exists_catalogue_of_readPooled hpooled
  constructor
  · intro p hp
    obtain ⟨q, hq, rfl⟩ := List.mem_map.1 hp
    exact (hqs q hq).1
  · intro p hp p' hp' hname
    obtain ⟨q, hq, rfl⟩ := List.mem_map.1 hp
    obtain ⟨q', hq', rfl⟩ := List.mem_map.1 hp'
    exact hproducts.eq_of_name_eq (hqs q hq).2 (hqs q' hq').2 hname

/-- The positions name the same account, product and category, and their prices and quantities are
equal. -/
structure Alike (p q : Position Float) : Prop where
  account : p.account = q.account
  name : p.product.name = q.product.name
  category : p.category = q.category
  price : Number.equal p.product.price q.product.price = true
  quantity : p.quantity = q.quantity

lemma Repeats.alike (hps : Consistent ps) {p q : Position Float} (h : Repeats ps p q) :
    Alike p q := by
  obtain ⟨r, hr, hproduct⟩ := h.product
  have hname : p.product.name = r.product.name := by rw [← hproduct, h.name]
  obtain ⟨hcategory, hprice⟩ := hps p h.mem r hr hname
  refine ⟨h.account.symm, h.name.symm, ?_, ?_, h.quantity.symm⟩
  · rw [hcategory, Position.category, Position.category, hproduct]
  · rw [hproduct]
    exact hprice

lemma Repeats.eq (hps : ConsistentProducts ps) {p q : Position Float} (h : Repeats ps p q) :
    p = q := by
  obtain ⟨r, hr, hproduct⟩ := h.product
  have hsame : p.product = r.product := hps p h.mem r hr (by rw [← hproduct, h.name])
  obtain ⟨account, product, quantity⟩ := q
  obtain rfl : account = p.account := h.account
  obtain rfl : quantity = p.quantity := h.quantity
  obtain rfl : product = p.product := hproduct.trans hsame.symm
  rfl

lemma consistent_of_same (hps : ∀ p ∈ ps, p.Tabular) (hsame : ConsistentProducts ps) :
    Consistent ps := by
  intro p hp q hq hname
  have hproduct := hsame p hp q hq hname
  refine ⟨congrArg Product.category hproduct, ?_⟩
  rw [← hproduct]
  exact equal_self (hps p hp).product.finite

/-- Positions that fit a table and share their products are read as they were written. -/
lemma read_write_of_same (hps : ∀ p ∈ ps, p.Tabular) (hsame : ConsistentProducts ps) :
    read (write writer ps).1 = .ok ps := by
  obtain ⟨qs, hread, hqs⟩ := exists_read hps (consistent_of_same hps hsame)
  have hforall : List.Forall₂ (· = ·) ps qs := hqs.imp fun p q h => h.eq hsame
  rw [List.forall₂_eq_eq_eq] at hforall
  rw [hread, hforall]

/-- Reading undoes writing if the positions fit a table and agree about their products; what is
read is exactly what was written if positions of one product name share the product. Whatever is
read from a table is of this kind, so it is read again from the table that is written for it. -/
theorem read_written :
    (∀ ps : List (Position Float), (∀ p ∈ ps, p.Tabular) → Consistent ps →
      ∃ qs, read (write writer ps).1 = .ok qs ∧ List.Forall₂ Alike ps qs ∧
        (ConsistentProducts ps → qs = ps)) ∧
      ∀ (bytes : List UInt8) (ps : List (Position Float)), read bytes = .ok ps →
        (∀ p ∈ ps, p.Tabular) ∧ Consistent ps ∧ read (write writer ps).1 = .ok ps := by
  have heq : ∀ {ps qs : List (Position Float)}, List.Forall₂ (Repeats ps) ps qs →
      ConsistentProducts ps → qs = ps := by
    intro ps qs hqs hsame
    have hforall : List.Forall₂ (· = ·) ps qs := hqs.imp fun p q h => h.eq hsame
    rw [List.forall₂_eq_eq_eq] at hforall
    exact hforall.symm
  constructor
  · intro ps hps hconsistent
    obtain ⟨qs, hread, hqs⟩ := exists_read hps hconsistent
    exact ⟨qs, hread, hqs.imp fun p q h => h.alike hconsistent, heq hqs⟩
  · intro bytes ps hread
    obtain ⟨hps, hsame⟩ := tabular_of_read hread
    have hconsistent := consistent_of_same hps hsame
    obtain ⟨qs, hread', hqs⟩ := exists_read hps hconsistent
    exact ⟨hps, hconsistent, by rw [hread', heq hqs hsame]⟩

/-- Positions with commas, quotes and line breaks in their names, a name that is empty, a price of
minus zero and the largest quantity. -/
def quotedPositions : List (Position Float) :=
  [⟨⟨"Smith, \"Jo\""⟩, ⟨"note\r\n1", "", 101.25⟩, 3⟩,
    ⟨⟨""⟩, ⟨"bond", "debt,\nlong term", -0.0⟩, 0⟩,
    ⟨⟨"\"\""⟩, ⟨"bond", "debt,\nlong term", -0.0⟩, 4294967295⟩]

theorem read_written_quoted :
    (∀ p ∈ quotedPositions, p.Tabular) ∧ Consistent quotedPositions ∧
      read (write writer quotedPositions).1 = .ok quotedPositions := by
  have hproducts : ConsistentProducts quotedPositions := by
    intro p hp q hq hname
    simp only [quotedPositions, List.mem_cons, List.not_mem_nil, or_false] at hp hq
    rcases hp with rfl | rfl | rfl <;> rcases hq with rfl | rfl | rfl
    any_goals rfl
    all_goals exact absurd hname (by decide)
  have hps : ∀ p ∈ quotedPositions, p.Tabular := by
    intro p hp
    simp only [quotedPositions, List.mem_cons, List.not_mem_nil, or_false] at hp
    rcases hp with rfl | rfl | rfl
    all_goals
      refine ⟨by decide, ⟨by decide, by decide, by decide +kernel, by decide +kernel⟩, by decide⟩
  obtain ⟨qs, hread, -, heq⟩ :=
    read_written.1 quotedPositions hps (consistent_of_same hps hproducts)
  obtain rfl := heq hproducts
  exact read_written.2 _ _ hread

end PositionTable

end Groupwise
