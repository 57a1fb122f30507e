import Groupwise.Csv.Text
import Mathlib

/-!
# Records are read as they were written

A field may hold any bytes: separators, quotes and line breaks in it are quoted. So every written
record is read as its fields (`shows_encodeRecord`), and a written table as its rows
(`recordsFrom_encode`). A table may be written in parts: the header comes with the first row,
however the rows are split (`TableWriter.write_append`).
-/

namespace Groupwise.Csv

variable {b : UInt8} {bytes rest field : List UInt8} {fields : List (List UInt8)} {w : Within}

/-! ### Fields and what is behind them -/

/-- What is left of a record has the given fields and the given bytes behind it. -/
def Fields.Shows (f : Fields) (fields : List (List UInt8)) (rest : List UInt8) : Prop :=
  f.first :: f.others = fields ∧ f.rest = rest

namespace Fields

variable {f : Fields}

lemma Shows.push (h : f.Shows (field :: fields) rest) :
    (f.push b).Shows ((b :: field) :: fields) rest := by
  obtain ⟨hfields, hrest⟩ := h
  obtain ⟨rfl, rfl⟩ := List.cons.inj hfields
  exact ⟨rfl, hrest⟩

lemma Shows.skip (h : f.Shows fields rest) : (f.skip b).Shows fields rest := h

lemma Shows.separate (h : f.Shows fields rest) : f.separate.Shows ([] :: fields) rest :=
  ⟨congrArg ([] :: ·) h.1, h.2⟩

end Fields

/-- Behind the bytes of a field, wherever they ended, an empty field is read and then others. -/
def Ended (bytes : List UInt8) (fields : List (List UInt8)) (rest : List UInt8) : Prop :=
  ∀ w, w ≠ .quoted → (scan w bytes).Shows ([] :: fields) rest

lemma part_eq_plain (hw : w ≠ .quoted) (hb : b ≠ quote) : w.part b = .plain b := by
  cases w with
  | quoted => exact absurd rfl hw
  | start | plain | closing => simp [Within.part, hb]

lemma ended_comma (h : (scan .start bytes).Shows fields rest) :
    Ended (comma :: bytes) fields rest := by
  intro w hw
  have hpart : w.part comma = .separator := part_eq_plain hw (by decide)
  rw [scan, hpart]
  exact h.separate

lemma ended_lineFeed : Ended (lineFeed :: bytes) [] bytes := by
  intro w hw
  have hpart : w.part lineFeed = .terminator := part_eq_plain hw (by decide)
  rw [scan, hpart]
  exact ⟨rfl, rfl⟩

/-! ### Fields -/

lemma needsQuotes_cons : needsQuotes (b :: field) = false ↔
    (b ≠ comma ∧ b ≠ quote ∧ isBreak b = false) ∧ needsQuotes field = false := by
  simp [needsQuotes, and_assoc]

lemma shows_plain (hfield : needsQuotes field = false) (h : Ended bytes fields rest)
    (hw : w ≠ .quoted) : (scan w (field ++ bytes)).Shows (field :: fields) rest := by
  induction field generalizing w with
  | nil => exact h w hw
  | cons b field ih =>
    obtain ⟨⟨hcomma, hquote, hbreak⟩, hfield⟩ := needsQuotes_cons.1 hfield
    have hpart : w.part b = .content .plain := by
      rw [part_eq_plain hw hquote, Part.plain, if_neg hcomma, hbreak]
      rfl
    rw [List.cons_append, scan, hpart]
    exact (ih hfield (by simp)).push

/-- The bytes between the quotes, the closing quote included. -/
lemma shows_quoted (h : Ended bytes fields rest) :
    (scan .quoted ((field.flatMap fun b => if b = quote then [quote, quote] else [b]) ++
      quote :: bytes)).Shows (field :: fields) rest := by
  induction field with
  | nil => exact (h .closing (by simp)).skip
  | cons b field ih =>
    by_cases hquote : b = quote
    · -- The first of the two quotes may be the closing one; the second makes it part of the field.
      subst hquote
      exact ih.push.skip
    · have hpart : Within.quoted.part b = .content .quoted := by simp [Within.part, hquote]
      rw [List.flatMap_cons, if_neg hquote, List.singleton_append, List.cons_append, scan, hpart]
      exact ih.push

lemma shows_quoteField (h : Ended bytes fields rest) :
    (scan .start (quoteField field ++ bytes)).Shows (field :: fields) rest := by
  rw [quoteField, List.append_assoc]
  exact (shows_quoted h).skip

lemma shows_encodeField (h : Ended bytes fields rest) :
    (scan .start (encodeField field ++ bytes)).Shows (field :: fields) rest := by
  rw [encodeField]
  split_ifs with hquotes
  · exact shows_quoteField h
  · exact shows_plain (Bool.not_eq_true _ ▸ hquotes) h (by simp)

/-! ### Records -/

lemma shows_encodeFields (hne : fields ≠ []) :
    (scan .start (encodeFields fields ++ lineFeed :: bytes)).Shows fields bytes := by
  fun_induction encodeFields fields with
  | case1 => exact absurd rfl hne
  | case2 f => exact shows_encodeField ended_lineFeed
  | case3 f fs hfs ih =>
    rw [List.append_assoc, List.cons_append]
    exact shows_encodeField (ended_comma (ih hfs))

/-- A written record is read as its fields. -/
lemma shows_encodeRecord (hne : fields ≠ []) :
    (scan .start (encodeRecord fields ++ bytes)).Shows fields bytes := by
  rw [encodeRecord, List.append_assoc, List.singleton_append]
  split_ifs with hempty
  · subst hempty
    exact shows_quoteField ended_lineFeed
  · exact shows_encodeFields hne

/-- No written record begins with a line break. -/
lemma exists_cons_encodeRecord (hne : fields ≠ []) :
    ∃ b bs, encodeRecord fields = b :: bs ∧ isBreak b = false := by
  have hfield : ∀ f, f ≠ [] → ∃ b bs, encodeField f = b :: bs ∧ isBreak b = false := by
    intro f hf
    rw [encodeField]
    split_ifs with hquotes
    · exact ⟨quote, _, rfl, rfl⟩
    · obtain ⟨b, bs, rfl⟩ := List.exists_cons_of_ne_nil hf
      exact ⟨b, bs, rfl, (needsQuotes_cons.1 (Bool.not_eq_true _ ▸ hquotes)).1.2.2⟩
  rw [encodeRecord]
  -- An empty first field has no bytes of its own: it is quoted or has a comma behind it.
  match fields with
  | [[]] => exact ⟨quote, _, rfl, rfl⟩
  | [b :: field] =>
    obtain ⟨c, cs, hcons, hc⟩ := hfield (b :: field) (by simp)
    rw [if_neg (by simp), encodeFields, hcons]
    exact ⟨c, _, rfl, hc⟩
  | [] :: f :: fs => exact ⟨comma, _, rfl, rfl⟩
  | (b :: field) :: f :: fs =>
    obtain ⟨c, cs, hcons, hc⟩ := hfield (b :: field) (by simp)
    rw [if_neg (by simp), encodeFields, hcons]
    · exact ⟨c, _, rfl, hc⟩
    · simp

/-! ### Tables -/

lemma recordsFrom_cons (p : Place) (hb : isBreak b = false) :
    recordsFrom p (b :: bytes) =
      ⟨p, (scan .start (b :: bytes)).first :: (scan .start (b :: bytes)).others⟩ ::
        recordsFrom (p.after (.ofBytes []) (scan .start (b :: bytes)).extent)
          (scan .start (b :: bytes)).rest := by
  have hdrop : (b :: bytes).dropWhile isBreak = b :: bytes :=
    List.dropWhile_cons_of_neg (by simp [hb])
  have htake : (b :: bytes).takeWhile isBreak = [] :=
    List.takeWhile_cons_of_neg (by simp [hb])
  rw [recordsFrom]
  split
  · next h => rw [hdrop] at h; cases h
  · next h =>
    rw [hdrop] at h
    injection h with hb hbytes
    subst hb hbytes
    rw [htake]

/-- A written table is read as its rows. -/
theorem recordsFrom_encode {rows : List (List (List UInt8))} (hrows : ∀ r ∈ rows, r ≠ [])
    (p : Place) : (recordsFrom p (encode rows)).map Record.fields = rows := by
  induction rows generalizing p with
  | nil =>
    rw [encode, List.flatMap_nil, recordsFrom]
    rfl
  | cons r rows ih =>
    have hr : r ≠ [] := hrows r List.mem_cons_self
    obtain ⟨b, bs, hcons, hb⟩ := exists_cons_encodeRecord hr
    have hshows : (scan .start (encodeRecord r ++ encode rows)).Shows r (encode rows) :=
      shows_encodeRecord hr
    obtain ⟨hfields, hrest⟩ := hshows
    have hbytes : encode (r :: rows) = b :: (bs ++ encode rows) := by
      rw [encode, List.flatMap_cons, ← encode, hcons, List.cons_append]
    rw [hcons, List.cons_append] at hfields hrest
    rw [hbytes, recordsFrom_cons p hb, hrest, List.map_cons, hfields,
      ih fun q hq => hrows q (List.mem_cons_of_mem r hq)]

lemma records_nil : records [] = [] := by
  show recordsFrom .start [] = []
  rw [recordsFrom]
  rfl

/-- A written table that does not begin like a mark is read as its rows. -/
lemma records_encode {rows : List (List (List UInt8))} (hrows : ∀ r ∈ rows, r ≠ [])
    (hmark : byteOrderMark.isPrefixOf (encode rows) = false) :
    (records (encode rows)).map Record.fields = rows := by
  rw [records, hmark]
  exact recordsFrom_encode hrows .start

/-! ### Tables with a header -/

namespace TableWriter

variable {w : TableWriter} {rows : List (List String)}

lemma write_of_ne_nil (w : TableWriter) (hne : rows ≠ []) :
    w.write rows =
      (encode ((if w.headed then rows else w.header :: rows).map (·.map Utf8.encode)),
        { w with headed := true }) := by
  obtain ⟨r, rows, rfl⟩ := List.exists_cons_of_ne_nil hne
  rfl

/-- It does not matter how rows are split: the header is written with the first of them. -/
lemma write_append (w : TableWriter) (rows more : List (List String)) :
    w.write (rows ++ more) =
      ((w.write rows).1 ++ ((w.write rows).2.write more).1, ((w.write rows).2.write more).2) := by
  by_cases hrows : rows = []
  · subst hrows
    rfl
  by_cases hmore : more = []
  · subst hmore
    rw [List.append_nil, write_of_ne_nil w hrows]
    simp [write]
  · have happend : rows ++ more ≠ [] := by simp [hrows]
    rw [write_of_ne_nil w happend, write_of_ne_nil w hrows, write_of_ne_nil _ hmore]
    cases w.headed <;> simp [encode]

/-- The first write to a table is read as the header and the rows. -/
lemma records_write (hw : w.headed = false) (hne : rows ≠ []) (hheader : w.header ≠ [])
    (hrows : ∀ r ∈ rows, r ≠ [])
    (hfirst : ∃ b bs, encodeRecord (w.header.map Utf8.encode) = b :: bs ∧ b ≠ 0xEF) :
    (records (w.write rows).1).map Record.fields =
      (w.header :: rows).map (·.map Utf8.encode) := by
  rw [write_of_ne_nil w hne, hw]
  refine records_encode (fun r hr => ?_) ?_
  · obtain ⟨texts, htexts, rfl⟩ := List.mem_map.1 hr
    rcases List.mem_cons.1 htexts with rfl | htexts
    · simpa using hheader
    · simpa using hrows texts htexts
  · obtain ⟨b, bs, hbs, hb⟩ := hfirst
    rw [encode, if_neg Bool.false_ne_true, List.map_cons, List.flatMap_cons, hbs]
    simp [byteOrderMark, List.isPrefixOf, hb.symm]

end TableWriter

end Groupwise.Csv
