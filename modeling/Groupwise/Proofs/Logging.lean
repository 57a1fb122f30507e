import Groupwise.Manifest.Log
import Groupwise.Proofs.Encoding
import Groupwise.Proofs.Notation
import Groupwise.Proofs.Reading
import Mathlib

/-!
# Logs are read as they are written

A manifest stays on one line whatever its strings hold, since the text of a JSON value has no
control characters (`Json.Value.visible_of_mem_chars`), and its text is read back field by field
(`Manifest.reads_reader`). So each line of a log is one entry in front of the entries of the rest
(`ManifestLog.read_line_append`), a line of white space is none (`ManifestLog.read_blank_append`),
and by induction over the lines a log reads as the manifests written to it.
-/

namespace Groupwise

/-! ### Written values are one line -/

namespace Json

/-- The character is no control character. -/
def Visible (c : Char) : Prop := 0x20 ≤ c.toNat

instance (c : Char) : Decidable (Visible c) := inferInstanceAs (Decidable (0x20 ≤ c.toNat))

lemma visible_of_isDigit {c : Char} (hc : c.isDigit = true) : Visible c := by
  simp only [Char.isDigit, Bool.and_eq_true, decide_eq_true_eq] at hc
  exact le_trans (by decide) (show '0'.toNat ≤ c.toNat from hc.1)

lemma visible_of_numeric {c : Char} (hc : Decimal.Numeric c) : Visible c := by
  rcases hc with hc | rfl | rfl | rfl | rfl
  · exact visible_of_isDigit hc
  all_goals decide

lemma visible_of_mem_escape {c d : Char} (h : d ∈ escape c) : Visible d := by
  have hhex : ∀ n < 16, Visible (Nat.digitChar n) := by decide
  unfold escape at h
  split_ifs at h with _ _ _ _ _ _ _ hsmall
  all_goals simp only [List.mem_cons, List.not_mem_nil, or_false] at h
  any_goals rcases h with rfl | rfl <;> decide
  · rcases h with rfl | rfl | rfl | rfl | rfl | rfl
    · decide
    · decide
    · decide
    · decide
    · exact hhex _ (by omega)
    · exact hhex _ (Nat.mod_lt _ (by decide))
  · exact h ▸ Nat.not_lt.1 hsmall

lemma visible_of_mem_quote {s : List Char} {c : Char} (h : c ∈ quote s) : Visible c := by
  have hquote : Visible '"' := by decide
  simp only [quote, List.mem_cons, List.mem_append, List.mem_flatMap, List.not_mem_nil,
    or_false] at h
  rcases h with rfl | ⟨d, _, hd⟩ | rfl
  · exact hquote
  · exact visible_of_mem_escape hd
  · exact hquote

namespace Value

lemma visible_of_mem_null {c : Char} (h : c ∈ ['n', 'u', 'l', 'l']) : Visible c := by
  simp only [List.mem_cons, List.not_mem_nil, or_false] at h
  rcases h with rfl | rfl | rfl | rfl <;> decide

lemma visible_of_mem_integerText {i : Int} {c : Char} (h : c ∈ integerText i) : Visible c := by
  rw [integerText] at h
  split_ifs at h
  · rcases List.mem_cons.1 h with rfl | h
    · decide
    · exact visible_of_isDigit (isDigit_of_mem_toDigits h)
  · exact visible_of_isDigit (isDigit_of_mem_toDigits h)

mutual

/-- The text of a value has no control characters, whatever its strings hold. -/
lemma visible_of_mem_chars (v : Value) {c : Char} (h : c ∈ v.chars) : Visible c := by
  match v with
  | null =>
    rw [chars] at h
    exact visible_of_mem_null h
  | natural n =>
    rw [chars] at h
    exact visible_of_isDigit (isDigit_of_mem_toDigits h)
  | integer i =>
    rw [chars] at h
    exact visible_of_mem_integerText h
  | float x =>
    rw [chars] at h
    rcases Decimal.Style.numeric_of_mem_render h with h | h | h | h
    · exact visible_of_numeric h
    all_goals exact visible_of_mem_null h
  | string s =>
    rw [chars] at h
    exact visible_of_mem_quote h
  | array vs =>
    simp only [chars, List.mem_cons, List.mem_append, List.not_mem_nil, or_false] at h
    rcases h with rfl | h | rfl
    · decide
    · exact visible_of_mem_elementChars vs h
    · decide
  | object ms =>
    simp only [chars, List.mem_cons, List.mem_append, List.not_mem_nil, or_false] at h
    rcases h with rfl | h | rfl
    · decide
    · exact visible_of_mem_memberChars ms h
    · decide

lemma visible_of_mem_elementChars (vs : List Value) {c : Char} (h : c ∈ elementChars vs) :
    Visible c := by
  match vs with
  | [] => cases h
  | v :: vs =>
    rw [elementChars_cons] at h
    rcases List.mem_append.1 h with h | h
    · exact visible_of_mem_chars v h
    match vs, h with
    | w :: vs, h =>
      rcases List.mem_cons.1 h with rfl | h
      · decide
      · exact visible_of_mem_elementChars (w :: vs) h

lemma visible_of_mem_memberChars (ms : List (String × Value)) {c : Char}
    (h : c ∈ memberChars ms) : Visible c := by
  match ms with
  | [] => cases h
  | (name, v) :: ms =>
    rw [memberChars_cons] at h
    simp only [List.mem_append, List.mem_cons] at h
    rcases h with h | rfl | h | h
    · exact visible_of_mem_quote h
    · decide
    · exact visible_of_mem_chars v h
    match ms, h with
    | m :: ms, h =>
      rcases List.mem_cons.1 h with rfl | h
      · decide
      · exact visible_of_mem_memberChars (m :: ms) h

end

end Value

end Json

/-! ### Identifiers, digests and names -/

namespace Uuid

lemma unhyphenate?_hyphenate {ns : List Nat} {ds : List Char} (h : ns.sum ≤ ds.length) :
    unhyphenate? ns (hyphenate ns ds) = some ds := by
  induction ns generalizing ds with
  | nil => rfl
  | cons n ns ih =>
    rw [List.sum_cons] at h
    have hlength : (ds.take n).length = n := List.length_take_of_le (by omega)
    have hdrop : (ds.take n ++ '-' :: hyphenate ns (ds.drop n)).drop n =
        '-' :: hyphenate ns (ds.drop n) := List.drop_left' hlength
    have htake : (ds.take n ++ '-' :: hyphenate ns (ds.drop n)).take n = ds.take n :=
      List.take_left' hlength
    simp only [hyphenate, unhyphenate?, hdrop, htake]
    rw [ih (by rw [List.length_drop]; omega)]
    simp only [Option.map_eq_map, Option.map_some, List.take_append_drop]

lemma ofHyphenated?_hyphenate (u : Uuid) :
    ofHyphenated? (hyphenate groups (Hex.encode u.bytes)) = some u := by
  have hlength : groups.sum ≤ (Hex.encode u.bytes).length := by
    rw [Hex.length_encode, u.length_bytes]
    decide
  rw [ofHyphenated?, unhyphenate?_hyphenate hlength, Option.bind_some, ofDigits?,
    Hex.decode?_encode, Option.bind_some, ofBytes?, dif_pos u.length_bytes]

lemma ofText?_text (u : Uuid) : ofText? u.text = some u := by
  obtain ⟨b, bytes, hbytes⟩ := List.exists_cons_of_length_eq_add_one u.length_bytes
  obtain ⟨cs, hcs⟩ : ∃ cs, hyphenate groups (Hex.encode u.bytes) =
      Nat.digitChar (b.toNat / 16) :: cs := by
    rw [hbytes]
    exact ⟨_, rfl⟩
  -- Texts in braces and with the long prefix are told from the first character.
  have hhex : ∀ n < 16, Nat.digitChar n ≠ '{' ∧ (Nat.digitChar n).toLower ≠ 'u' := by decide
  obtain ⟨hbrace, hurn⟩ := hhex (b.toNat / 16) (by have := b.toNat_lt; omega)
  have hhead : (Nat.digitChar (b.toNat / 16) :: cs).head? ≠ some '{' :=
    fun h => hbrace (Option.some.inj h)
  have hlong : ((Nat.digitChar (b.toNat / 16) :: cs).take urn.length).map Char.toLower ≠ urn :=
    fun h => hurn (List.head_eq_of_cons_eq h)
  rw [ofText?, text, String.toList_ofList]
  simp only [hcs, hhead, hlong, ↓reduceIte]
  rw [← hcs, ofHyphenated?_hyphenate, Option.some_or]

end Uuid

namespace Hash256

lemma reads_reader (h : Hash256) : Json.Reads reader (Json.toValue h) h := by
  have hread : List.Forall₂ (Json.Reads (Json.Reader.natural 256))
      (h.bytes.map fun b => Json.Value.natural b.toNat) (h.bytes.map UInt8.toNat) := by
    rw [List.forall₂_map_left_iff, List.forall₂_map_right_iff, List.forall₂_same]
    exact fun b _ => Json.reads_natural b.toNat_lt (by decide)
  have hstarts : ∀ v ∈ h.bytes.map fun b => Json.Value.natural b.toNat, v.Starts := by
    intro v hv
    obtain ⟨b, _, rfl⟩ := List.mem_map.1 hv
    exact Json.starts_natural _
  have hlength : (h.bytes.map UInt8.toNat).length = 32 := by rw [List.length_map, h.length_bytes]
  have hbytes : (h.bytes.map UInt8.toNat).map UInt8.ofNat = h.bytes := by
    rw [List.map_map]
    exact (List.map_congr_left fun b _ => UInt8.ofNat_toNat).trans (List.map_id _)
  have harray := Json.reads_array hread hstarts hlength
  intro rest hrest
  rw [reader]
  show (Json.Reader.array 32 (Json.Reader.natural 256) >>= _)
    ((Json.Value.array (h.bytes.map fun b => .natural b.toNat)).chars ++ rest) = _
  rw [Json.Reader.bind_apply (harray rest hrest)]
  simp only [hbytes]
  rfl

end Hash256

lemma Mode.reads_reader (m : Mode) : Json.Reads reader (Json.toValue m) m :=
  Json.reads_choice (by cases m <;> rfl)

lemma Style.reads_reader (s : Style) : Json.Reads reader (Json.toValue s) s :=
  Json.reads_choice (by cases s <;> rfl)

lemma Grouping.reads_reader (g : Grouping) : Json.Reads reader (Json.toValue g) g :=
  Json.reads_choice (by cases g <;> rfl)

/-! ### Manifests -/

namespace Manifest

/-- Counters, sizes and times fit into words. -/
structure Fits (m : Manifest) : Prop where
  records : m.records < wordBound
  batchSize : ∀ n ∈ m.batchSize, n < wordBound
  batches : m.batches < wordBound
  workers : m.workers < wordBound
  seed : ∀ n ∈ m.seed, n < wordBound
  groups : m.groups < wordBound
  started : m.started < wordBound
  finished : m.finished < wordBound

open Json

lemma reads_word {n : Nat} (hn : n < wordBound) : Reads word (.natural n) n :=
  reads_natural hn le_rfl

lemma reads_optional_word {o : Option Nat} (ho : ∀ n ∈ o, n < wordBound) :
    Reads (Reader.optional word) (toValue o) o :=
  reads_ofOption (fun n hn => reads_word (ho n hn)) starts_natural

lemma reads_optional_digest (o : Option Hash256) :
    Reads (Reader.optional Hash256.reader) (toValue o) o :=
  reads_ofOption (fun h _ => h.reads_reader) fun _ => starts_array _

lemma reads_reader {m : Manifest} (hm : m.Fits) : Reads reader (toValue m) m := by
  refine reads_record (s := ⟨some m.id, some m.version, some m.kind.mode, some m.kind.style,
    some m.kind.grouping, some m.records, some m.batchSize, some m.batches, some m.workers,
    some m.seed, some m.groups, some m.digest, some m.started, some m.finished⟩) ?_ rfl
  refine .cons rfl rfl ((reads_parsed m.id.ofText?_text).map _) ?_
  refine .cons rfl rfl ((reads_string m.version).map _) ?_
  refine .cons rfl rfl (m.kind.mode.reads_reader.map _) ?_
  refine .cons rfl rfl (m.kind.style.reads_reader.map _) ?_
  refine .cons rfl rfl (m.kind.grouping.reads_reader.map _) ?_
  refine .cons rfl rfl ((reads_word hm.records).map _) ?_
  refine .cons rfl rfl ((reads_optional_word hm.batchSize).map _) ?_
  refine .cons rfl rfl ((reads_word hm.batches).map _) ?_
  refine .cons rfl rfl ((reads_word hm.workers).map _) ?_
  refine .cons rfl rfl ((reads_optional_word hm.seed).map _) ?_
  refine .cons rfl rfl ((reads_word hm.groups).map _) ?_
  refine .cons rfl rfl ((reads_optional_digest m.digest).map _) ?_
  refine .cons rfl rfl ((reads_word hm.started).map _) ?_
  refine .cons rfl rfl ((reads_word hm.finished).map _) ?_
  exact .nil _

lemma parse_render {m : Manifest} (hm : m.Fits) : parse (toValue m).render = .ok m :=
  (reads_reader hm).run

end Manifest

/-! ### Lines -/

namespace ManifestLog

/-- A line feed ends a line. A carriage return before it is no part of the line. -/
lemma lines_append {l : List UInt8} (hl : lineFeed ∉ l) (rest : List UInt8) :
    ∃ l', lines (l ++ lineFeed :: rest) = l' :: lines rest ∧
      (l' = l ∨ l = l' ++ [carriageReturn]) := by
  induction l with
  | nil => exact ⟨[], if_pos rfl, .inl rfl⟩
  | cons b l ih =>
    have hb : b ≠ lineFeed := fun h => hl (h ▸ List.mem_cons_self)
    obtain ⟨l', hlines, hl'⟩ := ih fun h => hl (List.mem_cons_of_mem b h)
    rw [List.cons_append, lines, if_neg hb]
    split_ifs with hreturn
    · -- The line feed behind the carriage return is the one that ends the line.
      obtain ⟨rfl, hhead⟩ := hreturn
      have hnil : l = [] := by
        cases l with
        | nil => rfl
        | cons c l => exact absurd (Option.some.inj hhead) fun h => hl (by simp [h])
      subst hnil
      exact ⟨[], if_pos rfl, .inr rfl⟩
    · refine ⟨b :: l', by rw [hlines]; rfl, ?_⟩
      rcases hl' with rfl | rfl
      · exact .inl rfl
      · exact .inr rfl

lemma read_append_of_line {l : List UInt8} (hl : lineFeed ∉ l) {e : Option Manifest}
    (he : ∀ l', l' = l ∨ l = l' ++ [carriageReturn] → ofLine? l' = .ok e) (rest : List UInt8) :
    read (l ++ lineFeed :: rest) = (e.toList ++ ·) <$> read rest := by
  obtain ⟨l', hlines, hl'⟩ := lines_append hl rest
  rw [read, hlines, entries, he l' hl']
  cases e with
  | none => exact (id_map (read rest)).symm
  | some m => rfl

/-- A text of white space within one line. -/
def IsBlankLine (s : String) : Prop := s.toList.all Text.isBlank = true ∧ '\n' ∉ s.toList

lemma ofLine?_blank {s : String} (hs : s.toList.all Text.isBlank = true) :
    ofLine? (Utf8.encode s) = .ok none := by
  simp only [ofLine?, Utf8.decode?_encode, hs, ↓reduceIte]

lemma lineFeed_notMem_encode {s : String} (hs : '\n' ∉ s.toList) : lineFeed ∉ Utf8.encode s :=
  fun h => hs ((Utf8.mem_encode_ascii (by decide)).1 h)

lemma read_blank_append {s : String} (hs : IsBlankLine s) (rest : List UInt8) :
    read (Utf8.encode s ++ lineFeed :: rest) = read rest := by
  rw [read_append_of_line (e := none) (lineFeed_notMem_encode hs.2) ?_ rest]
  · exact id_map (read rest)
  · rintro l' (rfl | hl')
    · exact ofLine?_blank hs.1
    · obtain ⟨t, rfl, ht⟩ := Utf8.exists_of_encode_eq_append (by decide) hl'
      refine ofLine?_blank ?_
      have hall := hs.1
      rw [ht, List.all_append, Bool.and_eq_true] at hall
      exact hall.1

lemma visible_of_mem_render {v : Json.Value} {c : Char} (hc : c ∈ v.render.toList) :
    Json.Visible c := by
  rw [Json.Value.render, String.toList_ofList] at hc
  exact v.visible_of_mem_chars hc

lemma ofLine?_render {m : Manifest} (hm : m.Fits) :
    ofLine? (Utf8.encode (Json.toValue m).render) = .ok (some m) := by
  have hopen : '{' ∈ (Json.toValue m).render.toList := by
    rw [Json.Value.render, String.toList_ofList]
    exact List.mem_cons_self
  have hblank : ((Json.toValue m).render.toList.all Text.isBlank) = false := by
    rw [List.all_eq_false]
    exact ⟨'{', hopen, by decide⟩
  simp only [ofLine?, Utf8.decode?_encode, hblank, Manifest.parse_render hm]
  rfl

lemma read_line_append {m : Manifest} (hm : m.Fits) (rest : List UInt8) :
    read (line m ++ rest) = (m :: ·) <$> read rest := by
  have hcontrol : ∀ b : UInt8, b.toNat < 0x20 → b ∉ Utf8.encode (Json.toValue m).render := by
    intro b hb hmem
    have hc := visible_of_mem_render ((Utf8.mem_encode_ascii (by omega)).1 hmem)
    rw [Json.Visible, Char.toNat_ofNat, if_pos (Or.inl (by omega))] at hc
    omega
  rw [line, List.append_assoc, List.singleton_append]
  refine read_append_of_line (e := some m) (hcontrol _ (by decide)) ?_ rest
  rintro l' (rfl | hl')
  · exact ofLine?_render hm
  · exact absurd (hl' ▸ List.mem_append_right l' List.mem_cons_self) (hcontrol _ (by decide))

/-! ### Logs -/

/-- A log with the given entries: their lines in order, with lines of white space anywhere among
them. -/
inductive Spaced : List Manifest → List UInt8 → Prop
  | nil : Spaced [] []
  | blank {ms : List Manifest} {log : List UInt8} {s : String} (hs : IsBlankLine s)
      (h : Spaced ms log) : Spaced ms (Utf8.encode s ++ lineFeed :: log)
  | entry {ms : List Manifest} {log : List UInt8} (m : Manifest) (h : Spaced ms log) :
      Spaced (m :: ms) (line m ++ log)

lemma spaced_write (ms : List Manifest) : Spaced ms (write ms) := by
  induction ms with
  | nil => exact .nil
  | cons m ms ih => exact .entry m ih

/-- Whatever is appended to a log, its entries come first. -/
lemma read_spaced_append {ms : List Manifest} {log : List UInt8} (h : Spaced ms log)
    (hms : ∀ m ∈ ms, m.Fits) (rest : List UInt8) :
    read (log ++ rest) = (ms ++ ·) <$> read rest := by
  induction h with
  | nil => exact (id_map (read rest)).symm
  | blank hs _ ih =>
    rw [List.append_assoc, List.cons_append, read_blank_append hs]
    exact ih hms
  | entry m _ ih =>
    rw [List.append_assoc, read_line_append (hms m (by simp)), ih fun n hn => hms n (by simp [hn])]
    cases read rest <;> rfl

lemma read_spaced {ms : List Manifest} {log : List UInt8} (h : Spaced ms log)
    (hms : ∀ m ∈ ms, m.Fits) : read log = .ok ms := by
  rw [← List.append_nil log, read_spaced_append h hms]
  exact congrArg Except.ok (List.append_nil ms)

/-- A log reads as the manifests written to it. Lines of white space among its lines change nothing,
and two logs, one appended to the other, read as the manifests of the first and then of the
second. -/
theorem read_write {ms ns : List Manifest} (hms : ∀ m ∈ ms, m.Fits) (hns : ∀ n ∈ ns, n.Fits) :
    read (write ms) = .ok ms ∧
      (∀ log, Spaced ms log → read log = .ok ms) ∧
      read (write ms ++ write ns) = .ok (ms ++ ns) := by
  refine ⟨read_spaced (spaced_write ms) hms, fun log h => read_spaced h hms, ?_⟩
  rw [read_spaced_append (spaced_write ms) hms, read_spaced (spaced_write ns) hns]
  rfl

theorem read_write_escaped :
    let m : Manifest := ⟨.zero, "0.1.0 \"\n\\\x01é", ⟨.parallelLazy, .inPlace, .account⟩, 3, some 2,
      2, 4, some (wordBound - 1), 1, some ⟨List.replicate 32 0xFF, rfl⟩, 7, 9⟩
    let n : Manifest := .start .zero ⟨.serialEager, .immutable, .product⟩ 0 0
    (∀ k ∈ [m], k.Fits) ∧ (∀ k ∈ [n], k.Fits) ∧ read (write [m]) = .ok [m] ∧
      read (Utf8.encode " \t\r" ++ lineFeed :: write [m]) = .ok [m] ∧
      read (write [m] ++ write [n]) = .ok [m, n] := by
  intro m n
  have hm : ∀ k ∈ [m], k.Fits := by
    intro k hk
    rw [List.mem_singleton.1 hk]
    constructor <;> decide
  have hn : ∀ k ∈ [n], k.Fits := by
    intro k hk
    rw [List.mem_singleton.1 hk]
    constructor <;> decide
  have hblank : IsBlankLine " \t\r" := ⟨by decide, by decide⟩
  obtain ⟨hread, hspaced, hboth⟩ := read_write hm hn
  exact ⟨hm, hn, hread, hspaced _ (.blank hblank (spaced_write [m])), hboth⟩

end ManifestLog

end Groupwise
