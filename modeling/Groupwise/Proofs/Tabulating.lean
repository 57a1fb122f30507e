import Groupwise.Position.Csv
import Groupwise.Proofs.FloatOrder
import Groupwise.Proofs.Literals
import Groupwise.Proofs.Notation
import Groupwise.Proofs.Pooling
import Groupwise.Proofs.Quoting
import Groupwise.Proofs.Trimming

/-!
# Tables of positions are read as they were written

A position fits a table if its names have no white space at their ends, its price is finite and not
negative, and its quantity is below the bound. Positions that fit and agree about the products of
one name are read as they were written, each with the product that came first under its name
(`PositionTable.exists_read`).
-/

namespace Groupwise

open Csv Text

/-! ### Positions that fit a table -/

structure Product.Tabular (p : Product Float) : Prop where
  name : Trimmed p.name
  category : Trimmed p.category
  finite : p.price.isFinite = true
  nonneg : ¬ p.price < 0.0

structure Position.Tabular (p : Position Float) : Prop where
  account : Trimmed p.account.name
  product : p.product.Tabular
  quantity : p.quantity < quantityBound

namespace PositionTable

variable {p : Position Float} {keys : PositionKeys Float} {s : String}

/-! ### Cells -/

lemma graphic_of_numeric {c : Char} (h : Decimal.Numeric c) : Graphic c := by
  rcases h with h | rfl | rfl | rfl | rfl
  · have hrange : 48 ≤ c.toNat ∧ c.toNat ≤ 57 := Char.isDigit_iff_toNat.1 h
    exact ⟨by omega, by omega⟩
  all_goals decide

lemma trimmed_render (x : Float) : Trimmed (Decimal.table.render x) := by
  have hnan : ∀ c ∈ Decimal.table.nan.toList, Graphic c := by
    show ∀ c ∈ ['N', 'a', 'N'], Graphic c
    simp [Graphic]
  have hpos : ∀ c ∈ Decimal.table.posInf.toList, Graphic c := by
    show ∀ c ∈ ['i', 'n', 'f'], Graphic c
    simp [Graphic]
  have hneg : ∀ c ∈ Decimal.table.negInf.toList, Graphic c := by
    show ∀ c ∈ ['-', 'i', 'n', 'f'], Graphic c
    simp [Graphic]
  refine trimmed_of_graphic fun c hc => ?_
  rcases Decimal.Style.numeric_of_mem_render hc with hc | hc | hc | hc
  exacts [graphic_of_numeric hc, hnan c hc, hpos c hc, hneg c hc]

lemma trimmed_natText (n : Nat) : Trimmed (natText n) := by
  refine trimmed_of_graphic fun c hc => graphic_of_numeric ?_
  rw [natText, String.toList_ofList] at hc
  exact Decimal.numeric_of_mem_toDigits hc

lemma trimmed_of_mem_cells (hp : p.Tabular) : ∀ s ∈ cells p, Trimmed s := by
  intro s hs
  simp only [cells, List.mem_cons, List.not_mem_nil, or_false] at hs
  rcases hs with rfl | rfl | rfl | rfl | rfl
  · exact hp.account
  · exact hp.product.name
  · exact hp.product.category
  · exact trimmed_render _
  · exact trimmed_natText _

lemma trimmed_name (c : PositionColumn) : Trimmed c.name := by
  refine trimmed_of_graphic ?_
  cases c <;> simp [PositionColumn.name, Graphic]

lemma readQuantity_natText {n : Nat} (h : n < quantityBound) :
    readQuantity (natText n) = .ok n := by
  have hread := Literal.nat_toDigits h
  rw [readQuantity, natText, String.toList_ofList]
  split
  · next ds hds =>
    have hx : Char.isDigit 'x' = true := isDigit_of_mem_toDigits (n := n) (by simp [hds])
    cases hx
  · exact hread

lemma readPositionRow_texts {account product category price quantity : String} {x : Float} {n : Nat}
    (hprice : Literal.float price.toList = .ok x) (hquantity : readQuantity quantity = .ok n) :
    readPositionRow writer.header [account, product, category, price, quantity] =
      .ok ⟨account, product, category, x, n⟩ := by
  have hzip : writer.header.zip [account, product, category, price, quantity] =
      [(PositionColumn.account.name, account), (PositionColumn.product.name, product),
        (PositionColumn.category.name, category), (PositionColumn.price.name, price),
        (PositionColumn.quantity.name, quantity)] := rfl
  have hname : ∀ c : PositionColumn, PositionColumn.ofName? c.name = some c := by
    intro c
    cases c <;> decide
  rw [readPositionRow, hzip]
  simp only [Cells.read, hname, Cells.has, Cells.put, hprice, hquantity, Option.isSome_none,
    Bool.false_eq_true, ↓reduceIte]
  rfl

lemma readPositionRow_cells (hp : p.Tabular) :
    readPositionRow writer.header (cells p) =
      .ok (PositionRow.ofPosition p) :=
  readPositionRow_texts (Literal.float_render Decimal.table hp.product.finite)
    (readQuantity_natText hp.quantity)

/-! ### Rows -/

variable {header : List String} {all ps : List (Position Float)} {r : Record} {rs : List Record}

lemma equal_self {x : Float} (h : x.isFinite = true) : Number.equal x x = true := by
  have hnumber : Number.isNaN x = false := by
    show x.toModel.unpack.isNaN = false
    have hfinite : x.toModel.unpack.isFinite = true := h
    cases hx : x.toModel.unpack <;> rw [hx] at hfinite <;> first | rfl | cases hfinite
  have hle : Number.le x x = true := (OrderedNumber.le_total x x hnumber hnumber).elim id id
  rw [Number.equal, hle]
  rfl

lemma hasGoodPrice_iff {row : PositionRow Float} :
    row.hasGoodPrice = true ↔ row.price.isFinite = true ∧ ¬ row.price < 0.0 := by
  show (row.price.isFinite && !decide (row.price < 0.0)) = true ↔ _
  simp

lemma agrees_iff {row : PositionRow Float} {e : Product Float} :
    row.agrees e = true ↔ e.category = row.category ∧ Number.equal e.price row.price = true := by
  simp [PositionRow.agrees]

/-- A record that was written is admitted if its product is as it was. -/
lemma exists_readRecord (hp : p.Tabular) (hr : r.fields = (cells p).map Utf8.encode)
    (hkeys : ∀ e ∈ keys.products.entries, e.name = p.product.name →
      (PositionRow.ofPosition p).agrees e = true) :
    ∃ q keys', readRecord writer.header keys r = .ok (q, keys') ∧
      keys.Admitted (PositionRow.ofPosition p) q.position keys' := by
  have htexts : rowTexts writer.header.length r = .ok (cells p) :=
    rowTexts_encode hr (trimmed_of_mem_cells hp)
  have hequal : Number.equal p.product.price p.product.price = true := equal_self hp.product.finite
  have hself : (PositionRow.ofPosition p).agrees (PositionRow.ofPosition p).described = true := by
    rw [agrees_iff]
    exact ⟨rfl, hequal⟩
  have hprice : (PositionRow.ofPosition p).hasGoodPrice = true :=
    hasGoodPrice_iff.2 ⟨hp.product.finite, hp.product.nonneg⟩
  obtain ⟨⟨q, keys'⟩, hresult⟩ := PositionKeys.exists_admitted hprice hself hkeys
  refine ⟨q, keys', ?_, PositionKeys.admitted_of_ok hresult⟩
  simp only [readRecord, htexts, readPositionRow_cells hp, hresult]

/-- Positions of one product name agree about its category and its price. -/
def Consistent (ps : List (Position Float)) : Prop :=
  ∀ p ∈ ps, ∀ q ∈ ps, p.product.name = q.product.name →
    p.category = q.category ∧ Number.equal p.product.price q.product.price = true

/-- The position is as it was, up to its product, which is that of some position of the same
product name. -/
structure Repeats (all : List (Position Float)) (p q : Position Float) : Prop where
  mem : p ∈ all
  account : q.account = p.account
  quantity : q.quantity = p.quantity
  name : q.product.name = p.product.name
  product : ∃ r ∈ all, q.product = r.product

lemma exists_readRecords (hall : ∀ p ∈ all, p.Tabular) (hconsistent : Consistent all)
    (hps : ∀ p ∈ ps, p ∈ all)
    (hrs : List.Forall₂ (fun r p => r.fields = (cells p).map Utf8.encode) rs ps)
    (hkeys : ∀ e ∈ keys.products.entries, ∃ p ∈ all, e = p.product) :
    ∃ qs, readRecords writer.header keys rs = .ok qs ∧
      List.Forall₂ (Repeats all) ps (qs.map PooledPosition.position) := by
  induction hrs generalizing keys with
  | nil => exact ⟨[], rfl, .nil⟩
  | @cons r p rs ps hr hrs ih =>
    have hp : p ∈ all := hps p List.mem_cons_self
    -- All products in the pool are those of positions, with which this one agrees.
    have hagrees : ∀ e ∈ keys.products.entries, e.name = p.product.name →
        (PositionRow.ofPosition p).agrees e = true := by
      intro e he hname
      obtain ⟨q, hq, rfl⟩ := hkeys e he
      exact agrees_iff.2 (hconsistent q hq p hp hname)
    obtain ⟨q, keys', hread, hadmitted⟩ := exists_readRecord (hall p hp) hr hagrees
    have hproduct : (∃ r ∈ all, q.position.product = r.product) ∧
        ∀ e ∈ keys'.products.entries, ∃ r ∈ all, e = r.product := by
      rcases hadmitted.product with ⟨hmem, hsame⟩ | ⟨-, hnew, happend⟩
      · rw [hsame]
        exact ⟨hkeys _ hmem, hkeys⟩
      · have hq : ∃ r ∈ all, q.position.product = r.product := ⟨p, hp, hnew⟩
        rw [happend]
        refine ⟨hq, fun e he => ?_⟩
        rcases List.mem_append.1 he with he | he
        · exact hkeys e he
        · exact List.mem_singleton.1 he ▸ hq
    obtain ⟨qs, hreads, hqs⟩ := ih (fun p' hp' => hps p' (List.mem_cons_of_mem p hp')) hproduct.2
    refine ⟨q :: qs, ?_, .cons ?_ hqs⟩
    · rw [readRecords, hread]
      simp only [hreads]
      rfl
    · exact ⟨hp, hadmitted.account, hadmitted.quantity, hadmitted.name, hproduct.1⟩

/-! ### Tables -/

/-- The bytes of the header and of the cells under it. -/
lemma records_written (hps : ps ≠ []) :
    ∃ r rs, records (write writer ps).1 = r :: rs ∧
      r.fields = writer.header.map Utf8.encode ∧
      List.Forall₂ (fun r p => r.fields = (cells p).map Utf8.encode) rs ps := by
  have hcells : ps.map cells ≠ [] := by simpa using hps
  have hrows : ∀ r ∈ ps.map cells, r ≠ [] := by
    intro r hr
    obtain ⟨p, -, rfl⟩ := List.mem_map.1 hr
    simp [cells]
  have hfirst : ∃ b bs, encodeRecord (writer.header.map Utf8.encode) = b :: bs ∧ b ≠ 0xEF :=
    ⟨97, _, by cbv, by decide⟩
  have hfields := TableWriter.records_write rfl hcells (by simp [writer, TableWriter.new,
    PositionColumn.all]) hrows hfirst
  rw [List.map_cons, List.map_map] at hfields
  obtain ⟨r, rs, hr, hheader, hrs⟩ := List.map_eq_cons_iff.1 hfields
  refine ⟨r, rs, hr, hheader, ?_⟩
  rw [← List.forall₂_eq_eq_eq, List.forall₂_map_left_iff, List.forall₂_map_right_iff] at hrs
  exact hrs

/-- Positions that fit and agree are read as they were written. -/
lemma exists_read (hall : ∀ p ∈ ps, p.Tabular) (hconsistent : Consistent ps) :
    ∃ qs, read (write writer ps).1 = .ok qs ∧ List.Forall₂ (Repeats ps) ps qs := by
  by_cases hps : ps = []
  · subst hps
    refine ⟨[], ?_, .nil⟩
    show read [] = .ok []
    rw [read, readPooled, records_nil]
    rfl
  obtain ⟨r, rs, hrecords, hheader, hrs⟩ := records_written hps
  have hkeys : ∀ e ∈ (PositionKeys.empty (V := Float)).products.entries,
      ∃ p ∈ ps, e = p.product := by
    simp [PositionKeys.empty, KeyPool.empty]
  obtain ⟨qs, hread, hqs⟩ :=
    exists_readRecords hall hconsistent (fun p hp => hp) hrs hkeys
  refine ⟨qs.map PooledPosition.position, ?_, hqs⟩
  have hnames : ∀ s ∈ writer.header, Trimmed s := by
    intro s hs
    obtain ⟨c, -, rfl⟩ := List.mem_map.1 hs
    exact trimmed_name c
  have hheader' : headerTexts r = .ok writer.header := headerTexts_encode hheader hnames
  rw [read, readPooled, hrecords]
  simp only [hheader', hread]
  rfl

end PositionTable

end Groupwise
