import Groupwise.Csv.Text
import Groupwise.Proofs.Encoding
import Groupwise.Proofs.Success
import Mathlib

/-!
# Cells without blanks at their ends

Trimming leaves a text alone that neither begins nor ends with white space, and its result is
always such a text. A cell is trimmed twice, once as bytes and once as a text; the bytes that are
blanks are the white space of ASCII, so a written cell passes both unchanged (`rowTexts_encode`).
-/

namespace Groupwise

/-! ### Trimming a list -/

section

variable {α : Type} {p : α → Bool} {l : List α}

/-- The list neither begins nor ends with an element that satisfies `p`. -/
def Bare (p : α → Bool) (l : List α) : Prop :=
  (∀ a ∈ l.head?, p a = false) ∧ ∀ a ∈ l.getLast?, p a = false

instance : Decidable (Bare p l) :=
  inferInstanceAs (Decidable ((∀ a ∈ l.head?, p a = false) ∧ ∀ a ∈ l.getLast?, p a = false))

lemma dropWhile_eq_self (h : ∀ a ∈ l.head?, p a = false) : l.dropWhile p = l := by
  cases l with
  | nil => rfl
  | cons a l => exact List.dropWhile_cons_of_neg (by simp [h a rfl])

lemma trim_eq_self (h : Bare p l) : ((l.dropWhile p).reverse.dropWhile p).reverse = l := by
  have hlast : ∀ a ∈ l.reverse.head?, p a = false := by
    intro a ha
    rw [List.head?_reverse] at ha
    exact h.2 a ha
  rw [dropWhile_eq_self h.1, dropWhile_eq_self hlast, List.reverse_reverse]

lemma of_mem_head?_dropWhile : ∀ a ∈ (l.dropWhile p).head?, p a = false := by
  intro a ha
  have h := List.head?_dropWhile_not p l
  rw [Option.mem_def.1 ha] at h
  simpa using h

lemma bare_trim (p : α → Bool) (l : List α) :
    Bare p ((l.dropWhile p).reverse.dropWhile p).reverse := by
  constructor
  · intro a ha
    -- What is left is the front part of the list without its first blanks.
    obtain ⟨t, ht⟩ := List.dropWhile_suffix p (l := (l.dropWhile p).reverse)
    have hprefix := congrArg List.reverse ht
    rw [List.reverse_append, List.reverse_reverse] at hprefix
    refine of_mem_head?_dropWhile (l := l) a ?_
    rw [← hprefix]
    exact List.mem_head?_append_of_mem_head? ha
  · intro a ha
    rw [List.getLast?_reverse] at ha
    exact of_mem_head?_dropWhile a ha

end

/-! ### Texts -/

namespace Text

/-- The text neither begins nor ends with white space. -/
def Trimmed (s : String) : Prop := Bare isBlank s.toList

instance (s : String) : Decidable (Trimmed s) := inferInstanceAs (Decidable (Bare _ _))

/-- A visible character of ASCII. -/
def Graphic (c : Char) : Prop := 0x20 < c.toNat ∧ c.toNat < 0x7F

instance (c : Char) : Decidable (Graphic c) :=
  inferInstanceAs (Decidable (0x20 < c.toNat ∧ c.toNat < 0x7F))

lemma isBlank_of_graphic {c : Char} (h : Graphic c) : isBlank c = false := by
  obtain ⟨hlow, hhigh⟩ := h
  simp only [isBlank, Bool.or_eq_false_iff, Bool.and_eq_false_iff, decide_eq_false_iff_not,
    beq_eq_false_iff_ne]
  omega

lemma trimmed_of_graphic {s : String} (h : ∀ c ∈ s.toList, Graphic c) : Trimmed s :=
  ⟨fun c hc => isBlank_of_graphic (h c (List.mem_of_mem_head? hc)),
    fun c hc => isBlank_of_graphic (h c (List.mem_of_getLast? hc))⟩

end Text

namespace Csv

open Text

variable {s : String} {ss : List String} {place : Place} {i : Nat}

lemma toNat_lt_of_isBlankByte {b : UInt8} (h : isBlankByte b = true) : b.toNat < 0x80 := by
  simp only [isBlankByte, Bool.or_eq_true, beq_iff_eq] at h
  rcases h with (((rfl | rfl) | rfl) | rfl) | rfl <;> decide

lemma isBlank_of_isBlankByte {b : UInt8} (h : isBlankByte b = true) :
    isBlank (Char.ofNat b.toNat) = true := by
  simp only [isBlankByte, Bool.or_eq_true, beq_iff_eq] at h
  rcases h with (((rfl | rfl) | rfl) | rfl) | rfl <;> decide

/-- The blanks among bytes are characters by themselves. -/
lemma bare_encode (h : Trimmed s) : Bare isBlankByte (Utf8.encode s) := by
  constructor
  · intro b hb
    by_contra hblank
    rw [Bool.not_eq_false] at hblank
    obtain ⟨l, hl⟩ := List.head?_eq_some_iff.1 hb
    have hhead := Utf8.head?_of_encode_eq_cons (toNat_lt_of_isBlankByte hblank) hl
    have := h.1 _ hhead
    rw [isBlank_of_isBlankByte hblank] at this
    cases this
  · intro b hb
    by_contra hblank
    rw [Bool.not_eq_false] at hblank
    obtain ⟨l, hl⟩ := List.getLast?_eq_some_iff.1 hb
    obtain ⟨t, -, ht⟩ := Utf8.exists_of_encode_eq_append (toNat_lt_of_isBlankByte hblank) hl
    have := h.2 _ (by rw [ht, List.getLast?_concat]; rfl)
    rw [isBlank_of_isBlankByte hblank] at this
    cases this

lemma trimBytes_encode (h : Trimmed s) : trimBytes (Utf8.encode s) = Utf8.encode s :=
  trim_eq_self (bare_encode h)

lemma cellText?_encode (h : Trimmed s) : cellText? (Utf8.encode s) = some s := by
  rw [cellText?, Utf8.decode?_encode, Option.map_some, trim, trimBack, trimFront, trim_eq_self h,
    String.ofList_toList]

lemma trimmed_of_cellText? {field : List UInt8} (h : cellText? field = some s) : Trimmed s := by
  obtain ⟨t, -, rfl⟩ := Option.map_eq_some_iff.1 h
  rw [Trimmed, String.toList_ofList]
  exact bare_trim isBlank t.toList

/-! ### Records -/

lemma cellTexts_encode (h : ∀ s ∈ ss, Trimmed s) :
    cellTexts place i (ss.map Utf8.encode) = .ok ss := by
  induction ss generalizing i with
  | nil => rfl
  | cons s ss ih =>
    rw [List.map_cons, cellTexts, cellText?_encode (h s List.mem_cons_self)]
    simp only [ih fun t ht => h t (List.mem_cons_of_mem s ht)]
    rfl

lemma trimmed_of_cellTexts {fields : List (List UInt8)} (h : cellTexts place i fields = .ok ss) :
    ∀ s ∈ ss, Trimmed s := by
  induction fields generalizing i ss with
  | nil =>
    cases h
    simp
  | cons f fs ih =>
    rw [cellTexts] at h
    split at h
    · cases h
    · next s hs =>
      obtain ⟨rest, hrest, rfl⟩ := exists_of_map_eq_ok h
      intro t ht
      rcases List.mem_cons.1 ht with rfl | ht
      exacts [trimmed_of_cellText? hs, ih hrest t ht]

/-- The header of a table is read as it was written. -/
lemma headerTexts_encode {r : Record} (hr : r.fields = ss.map Utf8.encode)
    (h : ∀ s ∈ ss, Trimmed s) : headerTexts r = .ok ss := by
  rw [headerTexts, hr, cellTexts_encode h]

/-- A row of a table is read as it was written. -/
lemma rowTexts_encode {r : Record} (hr : r.fields = ss.map Utf8.encode)
    (h : ∀ s ∈ ss, Trimmed s) : rowTexts ss.length r = .ok ss := by
  have hlength : r.fields.length = ss.length := by rw [hr, List.length_map]
  have htrim : (ss.map Utf8.encode).map trimBytes = ss.map Utf8.encode := by
    rw [List.map_map]
    exact List.map_congr_left fun s hs => trimBytes_encode (h s hs)
  rw [rowTexts, if_pos hlength, hr, htrim, cellTexts_encode h]

lemma trimmed_of_rowTexts {width : Nat} {r : Record} (h : rowTexts width r = .ok ss) :
    ∀ s ∈ ss, Trimmed s := by
  rw [rowTexts] at h
  split_ifs at h
  exact trimmed_of_cellTexts h

end Csv

end Groupwise
