import Groupwise.Proofs.Tabulating

/-!
# Tables that are accepted

Rows are consistent if their prices are good and any two rows of one product describe it alike. A
row is compared only with the first description of its product, which is the one that the pool
keeps (`PositionKeys.Defines`). That is enough, since the rows that were admitted are consistent: a
row that matches the first one of its product matches them all. So a table is read if its rows are
consistent, and otherwise the first row that does not fit those before it is reported
(`PositionTable.read_parsed`).
-/

namespace Groupwise

open Csv

/-! ### Consistent rows -/

namespace PositionRow

variable {r s row : PositionRow Float} {rows before : List (PositionRow Float)}

/-- The price is finite and not negative. -/
def Priced (row : PositionRow Float) : Prop := row.price.isFinite = true ∧ ¬ row.price < 0.0

/-- Rows of one product name the same category and equal prices. -/
def Matches (r s : PositionRow Float) : Prop :=
  r.product = s.product → r.category = s.category ∧ Number.equal r.price s.price = true

/-- All prices are good, and all rows of one product describe it alike. -/
structure Consistent (rows : List (PositionRow Float)) : Prop where
  priced : ∀ r ∈ rows, r.Priced
  matching : ∀ r ∈ rows, ∀ s ∈ rows, r.Matches s

/-- The row has a bad price, or it disagrees with some row before it about their product. -/
def Offends (before : List (PositionRow Float)) (row : PositionRow Float) : Prop :=
  ¬ row.Priced ∨ ∃ r ∈ before, ¬ r.Matches row

lemma Matches.symm (h : r.Matches s) : s.Matches r := by
  intro hproduct
  obtain ⟨hcategory, hprice⟩ := h hproduct.symm
  exact ⟨hcategory.symm, (Number.equal_comm _ _).trans hprice⟩

lemma Matches.trans (h : r.Matches row) (h' : row.Matches s) (hproduct : r.product = row.product) :
    r.Matches s := by
  intro hsame
  obtain ⟨hcategory, hprice⟩ := h hproduct
  obtain ⟨hcategory', hprice'⟩ := h' (hproduct.symm.trans hsame)
  exact ⟨hcategory.trans hcategory', Number.equal_trans hprice hprice'⟩

lemma Priced.matches_self (h : row.Priced) : row.Matches row :=
  fun _ => ⟨rfl, PositionTable.equal_self h.1⟩

lemma consistent_nil : Consistent [] := ⟨by simp, by simp⟩

/-- One more row is consistent with the rows before it unless it offends. -/
lemma consistent_append_singleton :
    Consistent (before ++ [row]) ↔ Consistent before ∧ ¬ Offends before row := by
  constructor
  · rintro ⟨hpriced, hmatching⟩
    refine ⟨⟨fun r hr => hpriced r (by simp [hr]), fun r hr s hs => hmatching r (by simp [hr]) s
      (by simp [hs])⟩, ?_⟩
    rintro (hbad | ⟨r, hr, hdiffer⟩)
    · exact hbad (hpriced row (by simp))
    · exact hdiffer (hmatching r (by simp [hr]) row (by simp))
  · rintro ⟨h, hoffends⟩
    have hrow : row.Priced := not_not.1 fun hbad => hoffends (.inl hbad)
    have hbefore : ∀ r ∈ before, r.Matches row :=
      fun r hr => not_not.1 fun hdiffer => hoffends (.inr ⟨r, hr, hdiffer⟩)
    constructor
    · intro r hr
      rcases List.mem_append.1 hr with hr | hr
      · exact h.priced r hr
      · exact List.mem_singleton.1 hr ▸ hrow
    · intro r hr s hs
      rcases List.mem_append.1 hr with hr | hr <;> rcases List.mem_append.1 hs with hs | hs
      · exact h.matching r hr s hs
      · exact List.mem_singleton.1 hs ▸ hbefore r hr
      · exact List.mem_singleton.1 hr ▸ (hbefore s hs).symm
      · rw [List.mem_singleton.1 hr, List.mem_singleton.1 hs]
        exact hrow.matches_self

lemma Consistent.of_append (h : Consistent (before ++ rows)) : Consistent before :=
  ⟨fun r hr => h.priced r (List.mem_append_left _ hr), fun r hr s hs =>
    h.matching r (List.mem_append_left _ hr) s (List.mem_append_left _ hs)⟩

/-- What the row becomes. -/
structure Becomes (row : PositionRow Float) (p : Position Float) : Prop where
  account : p.account.name = row.account
  product : p.product.name = row.product
  category : p.category = row.category
  price : Number.equal p.product.price row.price = true
  quantity : p.quantity = row.quantity

/-- What is said about a row that offends: its price, or the first description of its product. -/
inductive Blames (before : List (PositionRow Float)) (row : PositionRow Float) :
    RowFault Float → Prop
  | badPrice (h : ¬ row.Priced) : Blames before row (.badPrice row.price)
  | redefined (h : row.Priced) {first : PositionRow Float}
      (hfirst : before.find? (·.product == row.product) = some first)
      (hdiffer : ¬ first.Matches row) : Blames before row (.redefined row first.described)

end PositionRow

/-! ### The pool -/

namespace PositionKeys

open PositionRow

variable {keys : PositionKeys Float} {row : PositionRow Float} {before : List (PositionRow Float)}

/-- The products of the pool are the first descriptions of the products of the rows. -/
structure Defines (keys : PositionKeys Float) (rows : List (PositionRow Float)) : Prop where
  first : ∀ e ∈ keys.products.entries,
    ∃ r, rows.find? (·.product == e.name) = some r ∧ e = r.described
  complete : ∀ r ∈ rows, ∃ e ∈ keys.products.entries, e.name = r.product

lemma defines_empty : empty.Defines [] :=
  ⟨by simp [empty, KeyPool.empty], by simp⟩

lemma Defines.exists_mem (h : keys.Defines before) {e : Product Float}
    (he : e ∈ keys.products.entries) : ∃ r ∈ before, e = r.described := by
  obtain ⟨r, hr, rfl⟩ := h.first e he
  exact ⟨r, List.mem_of_find?_eq_some hr, rfl⟩

lemma Admitted.becomes {keys' : PositionKeys Float} {p : Position Float}
    (h : keys.Admitted row p keys') : row.Becomes p := by
  obtain ⟨hcategory, hprice⟩ := PositionTable.agrees_iff.1 h.agrees
  exact ⟨congrArg Account.name h.account, h.name, hcategory, hprice, h.quantity⟩

lemma Defines.admitted {keys' : PositionKeys Float} {p : Position Float}
    (h : keys.Defines before) (hp : keys.Admitted row p keys') :
    keys'.Defines (before ++ [row]) := by
  have hkept : ∀ e ∈ keys.products.entries,
      ∃ r, (before ++ [row]).find? (·.product == e.name) = some r ∧ e = r.described := by
    intro e he
    obtain ⟨r, hr, hsame⟩ := h.first e he
    exact ⟨r, by rw [List.find?_append, hr, Option.some_or], hsame⟩
  rcases hp.product with ⟨hmem, hsame⟩ | ⟨hnew, hproduct, happend⟩
  · constructor
    · rwa [hsame]
    · intro r hr
      rw [hsame]
      rcases List.mem_append.1 hr with hr | hr
      · exact h.complete r hr
      · exact ⟨p.product, hmem, hp.name.trans (congrArg _ (List.mem_singleton.1 hr).symm)⟩
  · have hnone : before.find? (·.product == row.product) = none := by
      rw [List.find?_eq_none]
      intro r hr hname
      obtain ⟨e, he, hsame⟩ := h.complete r hr
      exact hnew e he (hsame.trans (eq_of_beq hname))
    constructor
    · intro e he
      rw [happend] at he
      rcases List.mem_append.1 he with he | he
      · exact hkept e he
      · obtain rfl : e = row.described := (List.mem_singleton.1 he).trans hproduct
        have hself : [row].find? (·.product == row.product) = some row :=
          List.find?_cons_of_pos (beq_self_eq_true _)
        refine ⟨row, ?_, rfl⟩
        show (before ++ [row]).find? (·.product == row.product) = some row
        rw [List.find?_append, hnone, hself, Option.none_or]
    · intro r hr
      rw [happend]
      rcases List.mem_append.1 hr with hr | hr
      · obtain ⟨e, he, hname⟩ := h.complete r hr
        exact ⟨e, List.mem_append_left _ he, hname⟩
      · exact ⟨p.product, by simp, hp.name.trans (congrArg _ (List.mem_singleton.1 hr).symm)⟩

/-- A row that does not offend is admitted. -/
lemma Defines.exists_admitted (h : keys.Defines before) (hrow : ¬ Offends before row) :
    ∃ p keys', keys.register row = .ok (p, keys') ∧ row.Becomes p.position ∧
      keys'.Defines (before ++ [row]) := by
  have hpriced : row.Priced := not_not.1 fun hbad => hrow (.inl hbad)
  have hself : row.agrees row.described = true :=
    PositionTable.agrees_iff.2 (hpriced.matches_self rfl)
  have hentries : ∀ e ∈ keys.products.entries, e.name = row.product → row.agrees e = true := by
    intro e he hname
    obtain ⟨r, hr, rfl⟩ := h.exists_mem he
    have hmatches : r.Matches row := not_not.1 fun hdiffer => hrow (.inr ⟨r, hr, hdiffer⟩)
    exact PositionTable.agrees_iff.2 (hmatches hname)
  obtain ⟨⟨p, keys'⟩, hresult⟩ :=
    PositionKeys.exists_admitted (PositionTable.hasGoodPrice_iff.2 hpriced) hself hentries
  have hp := admitted_of_ok hresult
  exact ⟨p, keys', hresult, hp.becomes, h.admitted hp⟩

lemma register_of_not_priced (h : ¬ row.Priced) :
    keys.register row = .error (.badPrice row.price) := by
  have hprice : row.hasGoodPrice = false :=
    Bool.eq_false_iff.2 (mt PositionTable.hasGoodPrice_iff.1 h)
  rw [PositionKeys.register, hprice]
  rfl

lemma register_of_not_agrees (h : row.Priced)
    (hdiffer : row.agrees (keys.products.put row.described).1.value = false) :
    keys.register row = .error (.redefined row (keys.products.put row.described).1.value) := by
  rw [PositionKeys.register, product_eq, if_pos (PositionTable.hasGoodPrice_iff.2 h)]
  simp only [hdiffer, Bool.false_eq_true, ↓reduceIte]

/-- A row that offends is refused. All rows of its product match the first one, so the row disagrees
with that one too. -/
lemma Defines.exists_refused (h : keys.Defines before) (hbefore : Consistent before)
    (hrow : Offends before row) :
    ∃ fault, keys.register row = .error fault ∧ Blames before row fault := by
  by_cases hpriced : row.Priced
  · obtain ⟨r, hr, hdiffer⟩ := hrow.resolve_left (not_not_intro hpriced)
    have hproduct : r.product = row.product := by
      by_contra hother
      exact hdiffer fun hsame => absurd hsame hother
    obtain ⟨p, hp, hname, hput⟩ | ⟨hnew, -⟩ := keys.products.put_cases row.described
    · obtain ⟨first, hfirst, hvalue⟩ := h.first p.value hp
      have hsame : first.product = row.product := by
        rw [hvalue] at hname
        exact Product.beq_iff.1 hname
      have hdiffer' : ¬ first.Matches row := fun hmatches =>
        hdiffer ((hbefore.matching r hr first (List.mem_of_find?_eq_some hfirst)).trans hmatches
          (hproduct.trans hsame.symm))
      refine ⟨.redefined row first.described, ?_, .redefined hpriced ?_ hdiffer'⟩
      · have hagrees : row.agrees (keys.products.put row.described).1.value = false := by
          rw [hput, hvalue, Bool.eq_false_iff]
          exact fun hagrees => hdiffer' fun _ => PositionTable.agrees_iff.1 hagrees
        rw [register_of_not_agrees hpriced hagrees, hput, hvalue]
      · rw [← hsame, ← hfirst, hvalue]
        rfl
    · obtain ⟨e, he, hename⟩ := h.complete r hr
      have hfalse := hnew e he
      rw [Product.beq_iff.2 (hename.trans hproduct)] at hfalse
      cases hfalse
  · exact ⟨_, register_of_not_priced hpriced, .badPrice hpriced⟩

end PositionKeys

/-! ### Tables -/

namespace PositionTable

open PositionRow

/-- A row of a table, and the line that is named with it. -/
structure NumberedRow where
  line : Nat
  row : PositionRow Float

variable {header : List String} {keys : PositionKeys Float} {r : Record} {rs : List Record}
  {t bad : NumberedRow} {table good : List NumberedRow} {before : List (PositionRow Float)}
  {fault : RowFault Float} {bytes : List UInt8}

/-- The record has the cells of the row. -/
def ParsesAs (header : List String) (r : Record) (t : NumberedRow) : Prop :=
  r.place.line = t.line ∧
    ∃ cells, rowTexts header.length r = .ok cells ∧ readPositionRow header cells = .ok t.row

/-- The rows that the text has as a table. -/
inductive Parsed (bytes : List UInt8) : List NumberedRow → Prop
  | empty (h : records bytes = []) : Parsed bytes []
  | table {head : Record} {rs : List Record} {header : List String} {table : List NumberedRow}
      (h : records bytes = head :: rs) (hheader : headerTexts head = .ok header)
      (hrs : List.Forall₂ (ParsesAs header) rs table) : Parsed bytes table

def rows (table : List NumberedRow) : List (PositionRow Float) := table.map NumberedRow.row

/-- The table, which stands behind the rows `before`, has rows that fit and then one that does
not. -/
structure FirstOffence (before : List (PositionRow Float)) (table good : List NumberedRow)
    (bad : NumberedRow) (fault : RowFault Float) : Prop where
  split : ∃ rest, table = good ++ bad :: rest
  consistent : PositionRow.Consistent (before ++ rows good)
  offends : Offends (before ++ rows good) bad.row
  blames : Blames (before ++ rows good) bad.row fault

lemma FirstOffence.cons (h : FirstOffence (before ++ [t.row]) table good bad fault) :
    FirstOffence before (t :: table) (t :: good) bad fault := by
  have hshift : before ++ rows (t :: good) = before ++ [t.row] ++ rows good := by simp [rows]
  obtain ⟨⟨rest, hsplit⟩, hconsistent, hoffends, hblames⟩ := h
  exact ⟨⟨rest, congrArg (t :: ·) hsplit⟩, hshift ▸ hconsistent, hshift ▸ hoffends,
    hshift ▸ hblames⟩

lemma FirstOffence.not_consistent (h : FirstOffence before table good bad fault) :
    ¬ PositionRow.Consistent (before ++ rows table) := by
  obtain ⟨⟨rest, rfl⟩, -, hoffends, -⟩ := h
  intro hall
  have hsplit : before ++ rows (good ++ bad :: rest) =
      before ++ rows good ++ [bad.row] ++ rows rest := by simp [rows]
  rw [hsplit] at hall
  exact (consistent_append_singleton.1 hall.of_append).2 hoffends

lemma readRecord_of_parsesAs (keys : PositionKeys Float) (h : ParsesAs header r t) :
    readRecord header keys r = (keys.register t.row).mapError (.row t.line) := by
  obtain ⟨hline, cells, hcells, hrow⟩ := h
  simp only [readRecord, hcells, hrow, hline]
  cases keys.register t.row <;> rfl

/-- Behind rows that are consistent, either all rows fit or there is a first one that does not. -/
lemma readRecords_of_parsesAs (hrs : List.Forall₂ (ParsesAs header) rs table)
    (hkeys : keys.Defines before) (hbefore : PositionRow.Consistent before) :
    (PositionRow.Consistent (before ++ rows table) ∧
        ∃ ps, readRecords header keys rs = .ok ps ∧
          List.Forall₂ Becomes (rows table) (ps.map PooledPosition.position)) ∨
      ∃ good bad fault, FirstOffence before table good bad fault ∧
        readRecords header keys rs = .error (.row bad.line fault) := by
  induction hrs generalizing keys before with
  | nil =>
    refine .inl ⟨?_, [], rfl, .nil⟩
    simpa [rows] using hbefore
  | @cons r t rs table hr hrs ih =>
    have hread := readRecord_of_parsesAs keys hr
    by_cases hrow : Offends before t.row
    · obtain ⟨fault, hrefused, hblames⟩ := hkeys.exists_refused hbefore hrow
      have hnil : before ++ rows [] = before := List.append_nil before
      refine .inr ⟨[], t, fault, ⟨⟨table, rfl⟩, ?_, ?_, ?_⟩, ?_⟩
      · rwa [hnil]
      · rwa [hnil]
      · rwa [hnil]
      · rw [readRecords, hread, hrefused]
        rfl
    · obtain ⟨p, keys', hregister, hbecomes, hkeys'⟩ := hkeys.exists_admitted hrow
      have hstep : readRecords header keys (r :: rs) =
          (p :: ·) <$> readRecords header keys' rs := by
        rw [readRecords, hread, hregister]
        rfl
      rw [hstep]
      rcases ih hkeys' (consistent_append_singleton.2 ⟨hbefore, hrow⟩) with
        ⟨hconsistent, ps, hps, hall⟩ | ⟨good, bad, fault, hfirst, herror⟩
      · refine .inl ⟨?_, p :: ps, ?_, .cons hbecomes hall⟩
        · simpa [rows] using hconsistent
        · rw [hps]
          rfl
      · refine .inr ⟨t :: good, bad, fault, hfirst.cons, ?_⟩
        rw [herror]
        rfl

lemma read_of_parsed (h : Parsed bytes table) :
    (PositionRow.Consistent (rows table) ∧
        ∃ ps, read bytes = .ok ps ∧ List.Forall₂ Becomes (rows table) ps) ∨
      ∃ good bad fault, FirstOffence [] table good bad fault ∧
        read bytes = .error (.row bad.line fault) := by
  cases h with
  | empty h =>
    refine .inl ⟨consistent_nil, [], ?_, .nil⟩
    rw [read, readPooled, h]
    rfl
  | @table head rs header table h hheader hrs =>
    have hread : read bytes =
        (readRecords header .empty rs).map (·.map PooledPosition.position) := by
      rw [read, readPooled, h]
      simp only [hheader]
    rw [hread]
    rcases readRecords_of_parsesAs hrs PositionKeys.defines_empty consistent_nil with
      ⟨hconsistent, ps, hps, hall⟩ | ⟨good, bad, fault, hfirst, herror⟩
    · refine .inl ⟨hconsistent, _, ?_, hall⟩
      rw [hps]
      rfl
    · refine .inr ⟨good, bad, fault, hfirst, ?_⟩
      rw [herror]
      rfl

/-- A table is read if and only if its rows are consistent, and then each row becomes a position.
Otherwise there is a first row that offends, and all that is returned is its line and what is wrong
with it. -/
theorem read_parsed (h : Parsed bytes table) :
    ((∃ ps, read bytes = .ok ps) ↔ PositionRow.Consistent (rows table)) ∧
      (∀ ps, read bytes = .ok ps → List.Forall₂ Becomes (rows table) ps) ∧
      (¬ PositionRow.Consistent (rows table) → ∃ good bad fault,
        FirstOffence [] table good bad fault ∧ read bytes = .error (.row bad.line fault)) := by
  rcases read_of_parsed h with ⟨hconsistent, ps, hps, hall⟩ | ⟨good, bad, fault, hfirst, herror⟩
  · refine ⟨iff_of_true ⟨ps, hps⟩ hconsistent, ?_, fun hnot => absurd hconsistent hnot⟩
    intro qs hqs
    obtain rfl : ps = qs := Except.ok.inj (hps.symm.trans hqs)
    exact hall
  · have hnone : ∀ ps, read bytes ≠ .ok ps := by
      intro ps hps
      cases herror.symm.trans hps
    exact ⟨iff_of_false (fun ⟨ps, hps⟩ => hnone ps hps) hfirst.not_consistent,
      fun ps hps => absurd hps (hnone ps), fun _ => ⟨good, bad, fault, hfirst, herror⟩⟩

/-- A product that comes again at an equal price, and then in another category. -/
def redefiningTable : List UInt8 :=
  Utf8.encode
    "account,product,category,price,quantity\na,p,A,2.5,3\nb,p,A,2.50,1\n\na,p,B,2.5,1\n"

def redefiningRows : List NumberedRow :=
  [⟨2, ⟨"a", "p", "A", 2.5, 3⟩⟩, ⟨3, ⟨"b", "p", "A", 2.50, 1⟩⟩, ⟨4, ⟨"a", "p", "B", 2.5, 1⟩⟩]

theorem read_parsed_redefining :
    Parsed redefiningTable redefiningRows ∧ ¬ PositionRow.Consistent (rows redefiningRows) ∧
      ∃ good bad fault, FirstOffence [] redefiningRows good bad fault ∧
        read redefiningTable = .error (.row bad.line fault) := by
  have hparsed : Parsed redefiningTable redefiningRows := by
    have hrecords : ∃ head r₁ r₂ r₃, records redefiningTable = [head, r₁, r₂, r₃] ∧
        headerTexts head = .ok writer.header ∧ ParsesAs writer.header r₁ redefiningRows[0] ∧
        ParsesAs writer.header r₂ redefiningRows[1] ∧
        ParsesAs writer.header r₃ redefiningRows[2] := by
      refine ⟨_, _, _, _, by cbv, ?_, ?_, ?_, ?_⟩
      · rfl
      · exact ⟨rfl, _, rfl, readPositionRow_texts (by decide +kernel) rfl⟩
      · exact ⟨rfl, _, rfl, readPositionRow_texts (by decide +kernel) rfl⟩
      · exact ⟨rfl, _, rfl, readPositionRow_texts (by decide +kernel) rfl⟩
    obtain ⟨head, r₁, r₂, r₃, hrecords, hheader, h₁, h₂, h₃⟩ := hrecords
    exact .table hrecords hheader (.cons h₁ (.cons h₂ (.cons h₃ .nil)))
  have hinconsistent : ¬ PositionRow.Consistent (rows redefiningRows) := by
    intro h
    have hcategory := (h.matching ⟨"a", "p", "A", 2.5, 3⟩ (by simp [rows, redefiningRows])
      ⟨"a", "p", "B", 2.5, 1⟩ (by simp [rows, redefiningRows]) rfl).1
    exact absurd hcategory (by decide)
  exact ⟨hparsed, hinconsistent, (read_parsed hparsed).2.2 hinconsistent⟩

end PositionTable

end Groupwise
